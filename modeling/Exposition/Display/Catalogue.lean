import Exposition.Catalogue
import Exposition.Display.Record

/-!
# Display/Catalogue — explanations and reports as text
-/

namespace Exposition

open Text

/-- An explanation as text, with a line about how it was made. -/
def Explanation.display (e : Explanation) : String :=
  let time := match e.seconds with
    | some seconds => seconds.fixed 2 ++ "s"
    | none => "-"
  Markup.stripped e.text ++ "\n\nProcessing time: " ++ time ++ " | Language: " ++ e.language ++
    " | Complexity: " ++ e.level.name

/-- The line of a language on offer. -/
def OfferedLanguage.line (o : OfferedLanguage) : String :=
  o.icon ++ " " ++ paddedRight 12 o.value ++ " " ++ o.name

/-- The languages on offer, one a line. -/
def OfferedLanguage.display (options : List OfferedLanguage) : String :=
  String.intercalate "\n" (options.map line)

/-- The line of a level on offer. -/
def OfferedLevel.line (o : OfferedLevel) : String :=
  o.icon ++ " " ++ o.level.name ++ " " ++ o.description

/-- The levels on offer, one a line. -/
def OfferedLevel.display (options : List OfferedLevel) : String :=
  String.intercalate "\n" (options.map line)

/-- The lines of a tally under its heading; an empty tally has none. -/
def tallyLines (heading : String) (line : String → String) (tally : List (String × Nat)) :
    List String :=
  if tally.isEmpty then []
  else heading :: tally.map fun (name, count) => "  " ++ line name ++ " " ++ decimal count

/-- The counts over the history. -/
def Stats.lines (s : Stats) : List String :=
  ["Total explanations: " ++ decimal s.total, "Favorites: " ++ decimal s.favorites] ++
    tallyLines "By language:" (fun name => iconOfLanguage name ++ " " ++ paddedRight 12 name)
      s.byLanguage ++
    tallyLines "By complexity:" (paddedRight 14) s.byLevel

/-- The counts over the history as a text, without blanks at its end. -/
def Stats.display (s : Stats) : String := String.ofList (trimEnd (unlines s.lines).toList)

/-- The report on the service's health. -/
def Health.display (h : Health) : String :=
  "Status: " ++ h.status ++ " (version " ++ h.version ++ ")\nLLM service: " ++ h.llmService ++
    "\nDatabase: " ++ h.database

end Exposition
