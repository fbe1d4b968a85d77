import Countersign.Argon2
import Countersign.Base64
import Countersign.Text.Integer
import Countersign.Text.Split

/-!
Password records: Argon2id digests with what it takes to compute them again.

A record is kept as a text of six fields, `$argon2id$v=19$m=65536,t=3,p=2$salt$digest`. Reading refuses
in a fixed order: the number of fields, the algorithm, the version, the grammar of the other three, and
last the values of the parameters. A record of so many lanes that their memory cannot be counted is neither
read nor refused.
-/

namespace Countersign

/-- Why a kept record is unusable. -/
inductive PasswordError where
  | fieldCount
  | algorithm
  | version
  /-- The parameters, the salt or the digest break the grammar. -/
  | grammar
  /-- A parameter or the salt has no usable value. -/
  | parameters
deriving DecidableEq

namespace PasswordError

def message : PasswordError → String
  | .fieldCount => "malformed password hash: unexpected field count"
  | .algorithm => "malformed password hash: unsupported algorithm"
  | .version => "malformed password hash: unsupported version"
  | .grammar => "malformed password hash: unparseable PHC string"
  | .parameters => "malformed password hash: invalid parameters"

end PasswordError

/-- A digest and what it was computed from, the password apart. -/
structure PasswordRecord where
  params : Argon2.Params
  salt : Bytes
  /-- Octets that enter the digest beside password and salt. -/
  data : Bytes := []
  digest : Bytes
deriving DecidableEq

namespace PasswordRecord

/-! ### Fields -/

/-- Characters of a parameter's name. -/
def isNameChar (c : Char) : Bool := c.isLower || c.isDigit || c == '-'

/-- Characters of a parameter's value, and of a salt. -/
def isValueChar (c : Char) : Bool :=
  c.isAlphanum || c == '/' || c == '+' || c == '.' || c == '-'

/-- A parameter as it stands in a record. -/
structure Setting where
  name : String
  value : List Char

/-- Reads one `name=value`. -/
def setting? (s : List Char) : Option Setting :=
  match Text.parts '=' s with
  | [name, value] =>
    if 1 ≤ name.length ∧ name.length ≤ 32 ∧ name.all isNameChar ∧ value.length ≤ 64 ∧
        value.all isValueChar then
      some ⟨String.ofList name, value⟩
    else none
  | _ => none

/-- Reads the parameters between commas. -/
def settings? (s : List Char) : Option (List Setting) :=
  if s.length ≤ 127 then (Text.parts ',' s).mapM setting? else none

/-- Reads a digest of 10 to 64 octets. -/
def digest? (s : List Char) : Option Bytes := do
  let b ← Base64.decode? .standard (String.ofList s)
  if 10 ≤ b.length ∧ b.length ≤ 64 then some b else none

/-- Reads a parameter's number: no sign, no zero in front, below `2 ^ 32`. -/
def number? (s : List Char) : Option Nat := do
  let n ← Text.readNat? s
  if (s.length = 1 ∨ s.head? ≠ some '0') ∧ n < 1 <<< 32 then some n else none

/-- Parameters as far as a record gives them; the rest has usual values. -/
structure Costs where
  params : Argon2.Params := ⟨19456, 2, 1⟩
  data : Bytes := []

/-- Takes one parameter; of two with one name the later counts. A key's identifier is checked, but does
not enter the digest. -/
def Costs.take? (c : Costs) (s : Setting) : Option Costs :=
  match s.name with
  | "m" => (number? s.value).map fun n => { c with params := { c.params with memory := n } }
  | "t" => (number? s.value).map fun n => { c with params := { c.params with passes := n } }
  | "p" => (number? s.value).map fun n => { c with params := { c.params with lanes := n } }
  | "keyid" => do
    let b ← Base64.decode? .standard (String.ofList s.value)
    if b.length ≤ 8 then some c else none
  | "data" => do
    let b ← Base64.decode? .standard (String.ofList s.value)
    if b.length ≤ 32 then some { c with data := b } else none
  | _ => none

/-- The memory that the lanes need at least, eight blocks each, as a number of 32 bits. -/
def leastMemory? (p : Argon2.Params) : Option Nat :=
  if 8 * p.lanes < 1 <<< 32 then some (8 * p.lanes) else none

/-- Whether a digest can be computed with the parameters; none if the memory that they need cannot be
counted. -/
def usable? (p : Argon2.Params) : Option Bool :=
  if p.memory < 8 then some false
  else (leastMemory? p).map fun least =>
    least ≤ p.memory && 1 ≤ p.passes && 1 ≤ p.lanes && p.lanes < 1 <<< 24

/-- The parameters that the settings give. -/
def costs? (settings : List Setting) : Option Costs := settings.foldlM Costs.take? {}

/-- Reads a salt of at least 8 octets. -/
def salt? (s : List Char) : Option Bytes := do
  let b ← Base64.decode? .standard (String.ofList s)
  if 8 ≤ b.length then some b else none

/-! ### Records -/

/-- The record of what the last three fields say. -/
def ofFields (settings : List Setting) (salt : List Char) (digest : Bytes) :
    Option (Except PasswordError PasswordRecord) :=
  match costs? settings with
  | none => some (.error .parameters)
  | some c => (usable? c.params).map fun usable =>
    match salt? salt with
    | some salt => if usable then .ok ⟨c.params, salt, c.data, digest⟩ else .error .parameters
    | none => .error .parameters

/-- Reads a kept record; none if the memory that it needs cannot be counted. -/
def read (s : String) : Option (Except PasswordError PasswordRecord) :=
  match Text.parts '$' s.toList with
  | [before, algorithm, version, settings, salt, digest] =>
    if algorithm ≠ "argon2id".toList then some (.error .algorithm)
    else if version ≠ "v=19".toList then some (.error .version)
    else if ¬ before.isEmpty ∨ salt.length < 4 ∨ 64 < salt.length ∨ ¬ salt.all isValueChar then
      some (.error .grammar)
    else match settings? settings, digest? digest with
      | some settings, some digest => ofFields settings salt digest
      | _, _ => some (.error .grammar)
  | _ => some (.error .fieldCount)

/-- The text of a record without further data. -/
def write (r : PasswordRecord) : String :=
  "$argon2id$v=19$m=" ++ Text.ofNat r.params.memory ++ ",t=" ++ Text.ofNat r.params.passes ++
    ",p=" ++ Text.ofNat r.params.lanes ++ "$" ++ Base64.encode .standard r.salt ++ "$" ++
    Base64.encode .standard r.digest

/-- Whether a password has the record's digest. -/
def accepts (r : PasswordRecord) (candidate : String) : Bool :=
  Argon2.digest r.params r.digest.length (Bytes.ofText candidate) r.salt r.data == r.digest

/-- What the digest of a new password costs. -/
def standard : Argon2.Params := ⟨65536, 3, 2⟩

/-- The record of a new password. -/
def new (password : String) (salt : Bytes) : PasswordRecord where
  params := standard
  salt := salt
  digest := Argon2.digest standard 32 (Bytes.ofText password) salt []

end PasswordRecord

namespace Password

/-- The text to keep for a new password. -/
def hash (password : String) (salt : Bytes) : String := (PasswordRecord.new password salt).write

/-- Whether a candidate is the password of a kept record; without one, or with an empty one, nothing
is. There is no answer where the record is neither read nor refused. -/
def verify (candidate : String) : Option String → Option (Except PasswordError Bool)
  | none => some (.ok false)
  | some stored =>
    if stored.isEmpty then some (.ok false)
    else (PasswordRecord.read stored).map fun record => record.map fun r => r.accepts candidate

end Password

end Countersign
