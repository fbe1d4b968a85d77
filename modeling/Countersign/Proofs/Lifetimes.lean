import Countersign.Proofs.Commitments
import Countersign.Proofs.Instants
import Countersign.Settings

/-!
What becomes of the lifetimes that are set.

A variable sets a number of minutes (`Settings.Sets`): the default, with a warning, unless it is a positive number of 64
bits. A lifetime has less room than such a number, and the calendar has less than a lifetime. So there are numbers that
pass for good and with which no settings are read (`Settings.ofLookup_reads`), and others with which they are, but no
tokens are given out (`Settings.Serves`).
-/

namespace Countersign

/-! ### Room for a lifetime -/

/-- The most minutes that a lifetime can have. -/
def Lifetime.maxMinutes : Int := 153722867280912

theorem Lifetime.ofMinutes?_cases {minutes : Int} (positive : 0 < minutes) :
    (maxMinutes < minutes ∧ ofMinutes? minutes = none) ∨
      minutes ≤ maxMinutes ∧ ∃ lifetime, ofMinutes? minutes = some lifetime ∧ lifetime.seconds = minutes * 60 := by
  unfold ofMinutes? ofSeconds? maxMinutes
  by_cases bounded : (minutes * 60).natAbs ≤ 9223372036854775
  · right
    rw [dif_pos bounded]
    exact ⟨by omega, _, rfl, rfl⟩
  · left
    rw [dif_neg bounded]
    exact ⟨by omega, rfl⟩

/-- The most minutes with which tokens can be given out up to the end of the year 9999. -/
def TokenService.maxMinutes : Int := 132614409600

/-! ### Programs -/

theorem Program.run_ofOption {α σ : Type} (answer : (c : Call) → σ → Option c.Answer × σ) (o : Option α) (s : σ) :
    (ofOption o).run answer s = (o, s) := by
  cases o <;> rfl

/-- Nothing is taken out of the log. -/
theorem Program.log_grows {α : Type} (backend : Backend) (p : Program α) (w : World) :
    ∃ events, (p.run (World.answerWith backend) w).2.log = w.log ++ events := by
  induction p generalizing w with
  | done a => exact ⟨[], (List.append_nil _).symm⟩
  | abort => exact ⟨[], (List.append_nil _).symm⟩
  | call c next ih =>
    cases c with
    | log e =>
      obtain ⟨events, grown⟩ := ih () { w with log := w.log ++ [e] }
      exact ⟨e :: events, grown.trans (List.append_cons ..).symm⟩
    | record timestamp nonce => exact ih _ { w with replay := w.replay.touch (ReplayGuard.key timestamp nonce) }
    | store call =>
      rcases isAnswer : backend call w.store with ⟨answer, store⟩
      rw [run_store isAnswer]
      cases answer with
      | none => exact ⟨[], (List.append_nil _).symm⟩
      | some a => exact ih a { w with store }

/-! ### Reading the settings -/

namespace Settings

variable {lookup : Lookup} {name : String} {default minutes session refresh : Int} {events warned warnedToo : List Event}

/-- How many minutes a variable sets, and with which warning. -/
inductive Sets (lookup : Lookup) (name : String) (default : Int) : Int → List Event → Prop
  | unset (unset : lookup name = none) : Sets lookup name default default []
  | given {raw : String} {minutes : Int64} (given : lookup name = some raw)
      (number : Text.readInt64? (Text.trim raw.toList) = some minutes) (positive : 0 < minutes.toInt) :
      Sets lookup name default minutes.toInt []
  | unusable {raw : String} (given : lookup name = some raw)
      (noNumber : ∀ minutes, Text.readInt64? (Text.trim raw.toList) = some minutes → minutes.toInt ≤ 0) :
      Sets lookup name default default [.invalidLifetime name raw default]

theorem sets_total (lookup : Lookup) (name : String) (default : Int) :
    ∃ minutes events, Sets lookup name default minutes events := by
  cases isRaw : lookup name with
  | none => exact ⟨_, _, .unset isRaw⟩
  | some raw =>
    by_cases good : ∃ minutes, Text.readInt64? (Text.trim raw.toList) = some minutes ∧ 0 < minutes.toInt
    · obtain ⟨minutes, number, positive⟩ := good
      exact ⟨_, _, .given isRaw number positive⟩
    · refine ⟨_, _, .unusable isRaw fun minutes number => ?_⟩
      exact Int.not_lt.mp fun positive => good ⟨minutes, number, positive⟩

theorem Sets.positive (sets : Sets lookup name default minutes events) (defaultPositive : 0 < default) :
    0 < minutes := by
  cases sets with
  | unset unset => exact defaultPositive
  | given given number positive => exact positive
  | unusable given noNumber => exact defaultPositive

theorem Sets.run (sets : Sets lookup name default minutes events) (backend : Backend) (w : World) :
    (lifetime lookup name default).run (World.answerWith backend) w =
      (Lifetime.ofMinutes? minutes, { w with log := w.log ++ events }) := by
  have unchanged : { w with log := w.log ++ [] } = w := by rw [List.append_nil]
  have fallback (raw : String) : (lifetime.fallback name default raw).run (World.answerWith backend) w =
      (Lifetime.ofMinutes? default, { w with log := w.log ++ [.invalidLifetime name raw default] }) :=
    Program.run_ofOption ..
  unfold lifetime
  cases sets with
  | unset unset =>
    rw [unset, unchanged]
    exact Program.run_ofOption ..
  | given given number positive =>
    rw [given, unchanged]
    dsimp only
    rw [number]
    dsimp only
    rw [if_pos positive]
    exact Program.run_ofOption ..
  | @unusable raw given noNumber =>
    rw [given]
    dsimp only
    cases isNumber : Text.readInt64? (Text.trim raw.toList) with
    | none => exact fallback raw
    | some minutes =>
      dsimp only
      rw [if_neg (Int.not_lt.mpr (noNumber minutes isNumber))]
      exact fallback raw

/-- What settings with so many minutes are good for. -/
structure Serves (settings : Settings) (session refresh : Int) : Prop where
  sessionLifetime : settings.sessionLifetime.seconds = session * 60
  refreshLifetime : settings.refreshLifetime.seconds = refresh * 60
  positive : 0 < settings.sessionLifetime.seconds ∧ 0 < settings.refreshLifetime.seconds
  /-- They make a token service. It gives out tokens as far as the calendar goes. -/
  issues : ∃ tokens, TokenService.new settings.secret settings.sessionLifetime settings.refreshLifetime = .ok tokens ∧
    (∀ (subject : String) (t : Instant), 0 ≤ t.seconds → t.seconds ≤ 253402300799 →
      ((∃ pair, tokens.issuePair subject t = some pair) ↔
        Instant.inCalendar (t.seconds + session * 60) ∧ Instant.inCalendar (t.seconds + refresh * 60))) ∧
    ((∀ (subject : String) (t : Instant), 0 ≤ t.seconds → t.seconds ≤ 253402300799 →
      ∃ pair, tokens.issuePair subject t = some pair) ↔
        session ≤ TokenService.maxMinutes ∧ refresh ≤ TokenService.maxMinutes)

theorem serves_of_lifetimes {settings : Settings} (secret_ne : settings.secret ≠ [])
    (sessionLifetime : settings.sessionLifetime.seconds = session * 60)
    (refreshLifetime : settings.refreshLifetime.seconds = refresh * 60) (sessionPositive : 0 < session)
    (refreshPositive : 0 < refresh) : settings.Serves session refresh := by
  let tokens : TokenService := ⟨settings.secret, settings.sessionLifetime, settings.refreshLifetime, secret_ne⟩
  have made : TokenService.new settings.secret settings.sessionLifetime settings.refreshLifetime = .ok tokens :=
    dif_neg secret_ne
  have positive : 0 < settings.sessionLifetime.seconds ∧ 0 < settings.refreshLifetime.seconds := by omega
  have issues (subject : String) (t : Instant) (first : 0 ≤ t.seconds) (last : t.seconds ≤ 253402300799) :
      (∃ pair, tokens.issuePair subject t = some pair) ↔
        Instant.inCalendar (t.seconds + session * 60) ∧ Instant.inCalendar (t.seconds + refresh * 60) := by
    rw [TokenService.issuePair_iff_spans first last positive subject, ← sessionLifetime, ← refreshLifetime]
    exact ⟨fun spans => ⟨spans.session, spans.refresh⟩, fun both => ⟨both.1, both.2⟩⟩
  refine ⟨sessionLifetime, refreshLifetime, positive, tokens, made, issues, ?_⟩
  unfold TokenService.maxMinutes
  constructor
  · intro always
    -- The last second decides.
    have last := (issues "" ⟨253402300799, 0⟩ (by decide) (by decide)).mp (always "" _ (by decide) (by decide))
    unfold Instant.inCalendar at last
    dsimp only at last
    omega
  · intro short subject t first last
    refine (issues subject t first last).mpr ?_
    unfold Instant.inCalendar
    omega

/-- What reading the settings comes to in a world, if the variables for lifetimes set so many minutes with such
warnings. -/
inductive Reads (lookup : Lookup) (w : World) (session refresh : Int) (warnings : List Event) :
    Option (Except SettingsError Settings) × World → Prop
  | unsigned (missing : nonEmpty lookup "JWT_SECRET" = none) :
      Reads lookup w session refresh warnings (some (.error .missingSecret), w)
  /-- There is no result if a lifetime has no room. -/
  | endless {secret : String} {left : World} (given : nonEmpty lookup "JWT_SECRET" = some secret)
      (long : Lifetime.maxMinutes < session ∨ Lifetime.maxMinutes < refresh) :
      Reads lookup w session refresh warnings (none, left)
  | read {secret : String} {settings : Settings} {left : World} (given : nonEmpty lookup "JWT_SECRET" = some secret)
      (fits : session ≤ Lifetime.maxMinutes ∧ refresh ≤ Lifetime.maxMinutes) (serves : settings.Serves session refresh)
      (warned : ∃ others, left.log = w.log ++ (warnings ++ others)) :
      Reads lookup w session refresh warnings (some (.ok settings), left)

theorem settled_portOf (lookup : Lookup) : (portOf lookup).Settled fun _ => True := by
  unfold portOf
  split
  · trivial
  · split <;> trivial

theorem settled_seedOf (lookup : Lookup) : (seedOf lookup).Settled fun _ => True := by
  unfold seedOf
  split
  · trivial
  · split <;> trivial
  · trivial

theorem secret_ne_of_given {secret : String} (given : nonEmpty lookup name = some secret) : Bytes.ofText secret ≠ [] := by
  intro isEmpty
  obtain ⟨-, notEmpty⟩ := Option.filter_eq_some_iff.mp given
  have same : secret = "" := Bytes.ofText_injective (isEmpty.trans (by decide))
  rw [same] at notEmpty
  cases notEmpty

/-- Once the lifetimes are there, all that is left to do is to read the rest, with warnings of its own. -/
theorem Reads.of_settled {w : World} {warnings : List Event} {secret : String} {sessionLifetime refreshLifetime : Lifetime}
    {p : Program (Except SettingsError Settings)}
    (settled : p.Settled fun r => ∃ settings : Settings, r = .ok settings ∧ settings.secret = Bytes.ofText secret ∧
      settings.sessionLifetime = sessionLifetime ∧ settings.refreshLifetime = refreshLifetime)
    (given : nonEmpty lookup "JWT_SECRET" = some secret)
    (fits : session ≤ Lifetime.maxMinutes ∧ refresh ≤ Lifetime.maxMinutes) (positive : 0 < session ∧ 0 < refresh)
    (isSession : sessionLifetime.seconds = session * 60) (isRefresh : refreshLifetime.seconds = refresh * 60) :
    Reads lookup w session refresh warnings (p.run World.answer { w with log := w.log ++ warnings }) := by
  have ends := (settled.run Store.answer { w with log := w.log ++ warnings }).1
  obtain ⟨others, grown⟩ := Program.log_grows Store.answer p { w with log := w.log ++ warnings }
  rw [World.answer]
  generalize p.run (World.answerWith Store.answer) { w with log := w.log ++ warnings } = ran at ends grown ⊢
  obtain ⟨result, left⟩ := ran
  obtain ⟨_, rfl, settings, rfl, isSecret, rfl, rfl⟩ := ends
  have secret_ne : settings.secret ≠ [] := by
    rw [isSecret]
    exact secret_ne_of_given given
  refine .read given fits (serves_of_lifetimes secret_ne isSession isRefresh positive.1 positive.2) ⟨others, ?_⟩
  rw [← List.append_assoc]
  exact grown

/-- Reading the settings comes to what the variables set: without a secret to that failure, to no result if a lifetime
has no room, and else to settings that serve. -/
theorem ofLookup_reads (lookup : Lookup) (w : World) :
    ∃ session refresh warned warnedToo,
      Sets lookup "TOKEN_EXPIRY" defaultSessionMinutes session warned ∧
      Sets lookup "REFRESH_TOKEN_EXPIRY" defaultRefreshMinutes refresh warnedToo ∧
      Reads lookup w session refresh (warned ++ warnedToo) ((ofLookup lookup).run World.answer w) := by
  obtain ⟨session, warned, sets⟩ := sets_total lookup "TOKEN_EXPIRY" defaultSessionMinutes
  obtain ⟨refresh, warnedToo, setsToo⟩ := sets_total lookup "REFRESH_TOKEN_EXPIRY" defaultRefreshMinutes
  refine ⟨session, refresh, warned, warnedToo, sets, setsToo, ?_⟩
  have positive : 0 < session ∧ 0 < refresh := ⟨sets.positive (by decide), setsToo.positive (by decide)⟩
  unfold ofLookup
  cases given : nonEmpty lookup "JWT_SECRET" with
  | none => exact .unsigned given
  | some secret =>
    dsimp only
    rw [Program.run_bind, World.answer, sets.run]
    rcases Lifetime.ofMinutes?_cases positive.1 with ⟨long, isNone⟩ | ⟨fits, sessionLifetime, isSome, isSession⟩
    · rw [isNone]
      exact .endless given (.inl long)
    rw [isSome]
    dsimp only
    rw [Program.run_bind, setsToo.run]
    rcases Lifetime.ofMinutes?_cases positive.2 with ⟨long, isNone⟩ | ⟨fitsToo, refreshLifetime, isSomeToo, isRefresh⟩
    · rw [isNone]
      exact .endless given (.inr long)
    rw [isSomeToo]
    dsimp only
    rw [List.append_assoc]
    refine Reads.of_settled ?_ given ⟨fits, fitsToo⟩ positive isSession isRefresh
    refine Program.settled_bind (Program.settled_mono (fun port _ => ?_) (settled_portOf lookup))
    refine Program.settled_bind (Program.settled_mono (fun seedAdmin _ => ?_) (settled_seedOf lookup))
    exact ⟨_, rfl, rfl, rfl, rfl⟩

end Settings

/-! ### Numbers that pass for good -/

/-- Variables that give a secret, and so many minutes to session tokens. -/
def Sample.lasting (minutes : String) : Settings.Lookup := fun name =>
  if name = "JWT_SECRET" then some "s" else if name = "TOKEN_EXPIRY" then some minutes else none

/-- With the greatest number of 64 bits no settings are read. With a smaller one they are, and without a warning, but
no tokens are given out, not even in 1970. -/
theorem Settings.ofLookup_unusable :
    ((ofLookup (Sample.lasting "9223372036854775807")).run World.answer { replay := .new 0 }).1 = none ∧
      ∃ settings left tokens,
        (ofLookup (Sample.lasting "200000000000")).run World.answer { replay := .new 0 } = (some (.ok settings), left) ∧
        left.log = [] ∧
        TokenService.new settings.secret settings.sessionLifetime settings.refreshLifetime = .ok tokens ∧
        tokens.issuePair "a" ⟨0, 0⟩ = none :=
  ⟨rfl, _, _, _, rfl, rfl, rfl, rfl⟩

end Countersign
