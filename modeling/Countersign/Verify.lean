import Countersign.Program

/-!
Verification of signed requests.

The replay guard is asked after all checks that need no comparison with the signature itself, so a request
with a good body hash uses up its nonce even if its signature is wrong.
-/

namespace Countersign

namespace Signature

/-- What the log tells of a refused request. -/
def refusal (request : SignedRequest) : SignatureError → Event
  | .replay => .nonceReplayed request.method request.target (request.headers.text? nonceHeader)
  | e => .signatureRejected request.method request.target e

/-- Refuses a request, and logs it. -/
def refuse (request : SignedRequest) (e : SignatureError) : Program (Except SignatureError Unit) := do
  Program.log (refusal request e)
  return .error e

/-- Checks what of a stamp needs the secret: body hash, novelty, signature. -/
def checkStamp (request : SignedRequest) (stamp : Stamp) (secret : Bytes) :
    Program (Except SignatureError Unit) :=
  if secret.isEmpty then refuse request .emptySecret
  else if stamp.coversBody request then do
    let fresh ← Program.record stamp.timestamp stamp.nonce
    if fresh then
      if stamp.signs request secret then return .ok () else refuse request .signatureMismatch
    else refuse request .replay
  else refuse request .bodyHashMismatch

/-- Checks a request that arrives at an instant. Without a secret only the stamp is read. -/
def checkAt (request : SignedRequest) (secret : Option Bytes) (now : Instant) :
    Program (Except SignatureError Unit) :=
  match Stamp.read request.headers now with
  | .error e => refuse request e
  | .ok stamp =>
    match secret with
    | none => return .ok ()
    | some secret => checkStamp request stamp secret

/-- Checks a request that arrives when the clock is read. -/
def check (request : SignedRequest) (secret : Option Bytes) (now : Instant) :
    Program (Except SignatureError Unit) := do
  checkAt request secret (← Program.ofOption now.onClock?)

end Signature

end Countersign
