import Exposition.Markup
import Exposition.Record
import Exposition.Text.Numeral

/-!
# Display/Record — records as text

A record is shown in two forms: as a numbered **card** in the list, with its code and explanation
cut short, and in full.
-/

namespace Exposition

open Text

/-- The icon of a language, by its tag. -/
def iconOfLanguage : String → String
  | "python" => "🐍"
  | "javascript" => "🟨"
  | "java" => "☕"
  | "cpp" => "⚡"
  | "csharp" => "🔷"
  | "typescript" => "🔷"
  | "php" => "🐘"
  | "ruby" => "💎"
  | "go" => "🐹"
  | "rust" => "🦀"
  | "html" => "🌐"
  | "css" => "🎨"
  | "sql" => "🗄️"
  | "bash" => "🐚"
  | _ => "💻"

/-- The icon of a level. -/
def Level.icon : Level → String
  | .beginner => "🌱"
  | .intermediate => "🎯"
  | .advanced => "🚀"

/-- **The head of a text**: at most `limit` characters, with dots after them if that is not all. -/
def preview (limit : Nat) (cs : List Char) : List Char :=
  if limit < cs.length then cs.take limit ++ ['.', '.', '.'] else cs

namespace Record

/-- How many characters of the code a card shows. -/
def codePreview : Nat := 200

/-- How many characters of the explanation a card shows. -/
def explanationPreview : Nat := 300

/-- The first line of a card. -/
def cardHeader (index : Nat) (r : Record) : String :=
  "[" ++ decimal index ++ "] #" ++ decimalInt r.id ++ " " ++ iconOfLanguage r.language ++ " " ++
    r.language ++ "  " ++ r.level.icon ++ " " ++ r.level.name ++
    (if r.isFavorite then " ♥" else "")

/-- The lines of code on a card. -/
def cardCode (r : Record) : List String :=
  (lines (preview codePreview r.code.toList)).map fun line => "    | " ++ String.ofList line

/-- The explanation on a card, in one line. -/
def cardSummary (r : Record) : String :=
  let text := (Markup.strip r.explanation.toList).map fun c => if c = '\n' then ' ' else c
  "    " ++ String.ofList (preview explanationPreview text)

/-- **The card of a record** at a position in the list. -/
def card (index : Nat) (r : Record) : String :=
  unlines (r.cardHeader index :: r.cardCode ++ [r.cardSummary]) ++ "    " ++ r.created.display

/-- **The record in full.** -/
def detail (r : Record) : String :=
  unlines
    (["Explanation #" ++ decimalInt r.id,
      "Language: " ++ r.language,
      "Complexity: " ++ r.level.name,
      "Date: " ++ r.created.display] ++
      (r.tags.map ("Tags: " ++ ·)).toList ++
      ["Favorite: " ++ (if r.isFavorite then "yes" else "no"),
        "",
        "--- code ---",
        r.code,
        "",
        "--- explanation ---"]) ++
    Markup.stripped r.explanation

end Record

end Exposition
