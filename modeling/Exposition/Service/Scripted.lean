import Exposition.Service

/-!
# Service/Scripted — a service with some of its replies given

The next replies of a scripted service are given in advance, one for each request, whatever it is; a
place in the script may be left to the service behind it, and so is all that comes after its end.
-/

namespace Exposition

/-- A reply to whatever is asked. -/
def AnyReply : Type := (r : Request) → r.Reply

/-- **A service with a script** before it. -/
structure Scripted (σ : Type) where
  service : σ
  script : List (Option AnyReply) := []

namespace Scripted

variable {σ : Type}

/-- A scripted service takes its next reply from the script, if there is one. -/
instance [Service σ] : Service (Scripted σ) where
  answer r s :=
    match s.script with
    | some reply :: script => (reply r, { s with script })
    | none :: script =>
      let (reply, service) := Service.answer r s.service
      (reply, ⟨service, script⟩)
    | [] =>
      let (reply, service) := Service.answer r s.service
      (reply, ⟨service, []⟩)

end Scripted

end Exposition
