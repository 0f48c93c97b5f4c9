import GrokingClawId.Lib.Text

/-!
# JSON values and their text

Values with the fields of an object in order, and the two ways they are written: compact, and
indented by two spaces. Numbers are kept as the text they are written with.
-/

namespace GrokingClawId

inductive Json where
  | null
  | bool (b : Bool)
  | num (text : String)
  | str (s : String)
  | arr (items : List Json)
  | obj (fields : List (String × Json))
  deriving Inhabited, Repr

namespace Json

/-- `get(key)`: only objects have fields. -/
def get (key : String) : Json → Option Json
  | obj fields => fields.lookup key
  | _ => none

def asStr : Json → Option String
  | str s => some s
  | _ => none

def asArray : Json → Option (List Json)
  | arr items => some items
  | _ => none

def asU64 : Json → Option Nat
  | num text => (Text.parseDigits text.toList).filter (· < UInt64.size)
  | _ => none

def ofOption {α : Type} (f : α → Json) : Option α → Json
  | some a => f a
  | none => null

def escapeChar (c : Char) : List Char :=
  if c = '"' then ['\\', '"']
  else if c = '\\' then ['\\', '\\']
  else if c = '\x08' then ['\\', 'b']
  else if c = '\x0c' then ['\\', 'f']
  else if c = '\n' then ['\\', 'n']
  else if c = '\r' then ['\\', 'r']
  else if c = '\t' then ['\\', 't']
  else if c.toNat < 0x20 then
    ['\\', 'u', '0', '0', Nat.digitChar (c.toNat / 16), Nat.digitChar (c.toNat % 16)]
  else [c]

def quote (s : String) : String := String.ofList ('"' :: s.toList.flatMap escapeChar ++ ['"'])

mutual

def render : Json → String
  | null => "null"
  | bool b => if b then "true" else "false"
  | num text => text
  | str s => quote s
  | arr items => "[" ++ ",".intercalate (renderItems items) ++ "]"
  | obj fields => "\x7b" ++ ",".intercalate (renderFields fields) ++ "\x7d"

def renderItems : List Json → List String
  | [] => []
  | v :: items => render v :: renderItems items

def renderFields : List (String × Json) → List String
  | [] => []
  | (key, v) :: fields => (quote key ++ ":" ++ render v) :: renderFields fields

end

/-- A line break followed by the indentation of a level. -/
def newline (level : Nat) : String := "\n" ++ String.ofList (List.replicate (2 * level) ' ')

mutual

def pretty (level : Nat) : Json → String
  | null => "null"
  | bool b => if b then "true" else "false"
  | num text => text
  | str s => quote s
  | arr [] => "[]"
  | arr (v :: items) =>
    "[" ++ ",".intercalate (prettyItems (level + 1) (v :: items)) ++ newline level ++ "]"
  | obj [] => "\x7b\x7d"
  | obj (field :: fields) =>
    "\x7b" ++ ",".intercalate (prettyFields (level + 1) (field :: fields)) ++ newline level ++ "\x7d"

def prettyItems (level : Nat) : List Json → List String
  | [] => []
  | v :: items => (newline level ++ pretty level v) :: prettyItems level items

def prettyFields (level : Nat) : List (String × Json) → List String
  | [] => []
  | (key, v) :: fields => (newline level ++ quote key ++ ": " ++ pretty level v) :: prettyFields level fields

end

example : render (.obj [("a", .arr [.num "1", .str "x\n"]), ("b", .null)]) =
    "\x7b\"a\":[1,\"x\\n\"],\"b\":null\x7d" := by decide

end Json
end GrokingClawId
