/-!
# Notification — short messages for the user
-/

namespace Exposition

/-- What a message is about. -/
inductive Tone
  | success
  | error
  | warning
  | info
deriving DecidableEq, Repr

/-- **A notification**: one message, shown once. -/
structure Notification where
  tone : Tone
  message : String
deriving DecidableEq, Repr

namespace Notification

/-- Something was done. -/
def success (message : String) : Notification := ⟨.success, message⟩

/-- Something went wrong. -/
def error (message : String) : Notification := ⟨.error, message⟩

/-- Something is missing or not allowed. -/
def warning (message : String) : Notification := ⟨.warning, message⟩

/-- Something is worth knowing. -/
def info (message : String) : Notification := ⟨.info, message⟩

end Notification

/-- The sign that marks a message of this tone on the terminal. -/
def Tone.marker : Tone → String
  | .success => "✔"
  | .error => "✖"
  | .warning => "⚠"
  | .info => "ℹ"

/-- The line that shows a notification on the terminal. -/
def Notification.line (n : Notification) : String := n.tone.marker ++ " " ++ n.message

end Exposition
