import Behavior.Text.Quoted

namespace Behavior.Text

inductive Form where
  | word (text : String)
  | labelled (label : String) (value : Form)
  | group (opening closing gap : String) (parts : List Form)

namespace Form

def text (content : String) : Form :=
  word (quoted content)

def list (parts : List Form) : Form :=
  group "[" "]" "" parts

def wrapped (name : String) (value : Form) : Form :=
  group (name ++ "(") ")" "" [value]

def optional : Option Form → Form
  | none => word "None"
  | some value => wrapped "Some" value

def field (name : String) (value : Form) : Form :=
  labelled (name ++ ": ") value

def record (name : String) (fields : List Form) : Form :=
  group (name ++ " \x7b") "\x7d" " " fields

def map (entries : List (String × Form)) : Form :=
  group "\x7b" "\x7d" "" (entries.map fun (key, value) => field (quoted key) value)

mutual

def line : Form → String
  | word text => text
  | labelled label value => label ++ value.line
  | group opening closing gap parts =>
      opening ++ gap ++ ", ".intercalate (lines parts) ++ gap ++ closing

def lines : List Form → List String
  | [] => []
  | part :: rest => part.line :: lines rest

end

theorem lines_eq_map (parts : List Form) : lines parts = parts.map line := by
  induction parts with
  | nil => rfl
  | cons part rest ih => rw [lines, ih, List.map_cons]

theorem line_map (entries : List (String × Form)) :
    (map entries).line =
      "\x7b" ++ ", ".intercalate (entries.map fun entry => quoted entry.1 ++ ": " ++ entry.2.line)
        ++ "\x7d" := by
  rw [map, line, lines_eq_map, List.map_map]
  simp only [String.append_empty]
  rfl

def indent (depth : Nat) : String :=
  "".pushn ' ' (4 * depth)

mutual

/-- The text broken over lines, in pieces, for a value that starts `depth` levels in. -/
def pieces (depth : Nat) : Form → List String
  | word text => [text]
  | labelled label value => label :: value.pieces depth
  | group opening closing _ [] => [opening, closing]
  | group opening closing _ (part :: rest) =>
      opening :: "\n" :: brokenPieces (depth + 1) (part :: rest) ++ [indent depth, closing]

def brokenPieces (depth : Nat) : List Form → List String
  | [] => []
  | part :: rest => indent depth :: part.pieces depth ++ ",\n" :: brokenPieces depth rest

end

def render (form : Form) (broken : Bool) : String :=
  if broken then String.join (form.pieces 0) else form.line

end Form

end Behavior.Text
