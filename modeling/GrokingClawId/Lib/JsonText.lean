import Mathlib.Data.List.Sort
import Mathlib.Data.String.Basic
import GrokingClawId.Lib.Codec
import GrokingClawId.Lib.Json
import GrokingClawId.Lib.Separated

/-!
# JSON values from their text

The compact text of a value determines the value, and where it ends: strings are escaped up to their
closing quote, and the text of a number ends before any delimiter. Values with the same fields in
another order have one text once the keys are sorted.
-/

namespace GrokingClawId.Json
open Codec Separated

/-! ### Strings -/

/-- Reads one escaped character. -/
def unescape : List Char → Option (Char × List Char)
  | '\\' :: '"' :: rest => some ('"', rest)
  | '\\' :: '\\' :: rest => some ('\\', rest)
  | '\\' :: 'b' :: rest => some ('\x08', rest)
  | '\\' :: 'f' :: rest => some ('\x0c', rest)
  | '\\' :: 'n' :: rest => some ('\n', rest)
  | '\\' :: 'r' :: rest => some ('\r', rest)
  | '\\' :: 't' :: rest => some ('\t', rest)
  | '\\' :: 'u' :: '0' :: '0' :: high :: low :: rest => do
    some (Char.ofNat (16 * (← hexValue high) + (← hexValue low)), rest)
  | c :: rest => some (c, rest)
  | [] => none

theorem unescape_plain {c : Char} (plain : c ≠ '\\') (rest : List Char) :
    unescape (c :: rest) = some (c, rest) := by
  unfold unescape
  split <;> simp_all

theorem unescape_control (n : Nat) (small : n < 0x20) (rest : List Char) :
    unescape (['\\', 'u', '0', '0', Nat.digitChar (n / 16), Nat.digitChar (n % 16)] ++ rest) =
      some (Char.ofNat n, rest) := by
  simp only [List.cons_append, List.nil_append, unescape]
  rw [hexValue_digitChar _ (by omega), hexValue_digitChar _ (by omega)]
  simp only [Option.bind_eq_bind, Option.bind_some]
  rw [Nat.div_add_mod]

theorem unescape_escapeChar (c : Char) (rest : List Char) :
    unescape (escapeChar c ++ rest) = some (c, rest) := by
  unfold escapeChar
  by_cases quote : c = '"'
  · subst quote; rfl
  by_cases backslash : c = '\\'
  · subst backslash; rfl
  by_cases backspace : c = '\x08'
  · subst backspace; rfl
  by_cases formFeed : c = '\x0c'
  · subst formFeed; rfl
  by_cases lineFeed : c = '\n'
  · subst lineFeed; rfl
  by_cases carriageReturn : c = '\r'
  · subst carriageReturn; rfl
  by_cases tab : c = '\t'
  · subst tab; rfl
  rw [if_neg quote, if_neg backslash, if_neg backspace, if_neg formFeed, if_neg lineFeed,
    if_neg carriageReturn, if_neg tab]
  by_cases control : c.toNat < 0x20
  · rw [if_pos control, unescape_control _ control, Char.ofNat_toNat]
  · rw [if_neg control]
    exact unescape_plain backslash rest

theorem escapeChar_begins (c : Char) :
    ∃ first rest, escapeChar c = first :: rest ∧ first ≠ '"' := by
  unfold escapeChar
  split_ifs with quote
  case neg => exact ⟨c, [], rfl, quote⟩
  all_goals exact ⟨'\\', _, rfl, by decide⟩

theorem quote_read {s t : String} {r r' : List Char}
    (same : (quote s).toList ++ r = (quote t).toList ++ r') : s = t ∧ r = r' := by
  simp only [quote, String.toList_ofList, List.cons_append, List.append_assoc] at same
  have readable : ∀ c : Char, Readable (fun _ => True) escapeChar (fun _ => True) c := by
    intro c c' _ r r' _ _ same
    have read := congrArg unescape same
    rw [unescape_escapeChar, unescape_escapeChar] at read
    exact Prod.mk.inj (Option.some.inj read)
  obtain ⟨chars, rest⟩ := flatMap_read (fun c _ => escapeChar_begins c) (fun _ _ _ => trivial)
    (fun _ _ => trivial) (fun c _ => readable c) (fun _ _ => trivial) (List.cons.inj same).2
  exact ⟨String.toList_inj.mp chars, rest⟩

/-! ### Values -/

def isNumberChar (c : Char) : Bool :=
  c.isDigit || c == '-' || c == '+' || c == '.' || c == 'e' || c == 'E'

/-- Objects have distinct keys, and a number is written with the characters of a number. -/
inductive WellFormed : Json → Prop where
  | null : WellFormed null
  | bool (b : Bool) : WellFormed (bool b)
  | num {text : String} (nonempty : text.toList ≠ []) (chars : ∀ c ∈ text.toList, isNumberChar c = true) :
    WellFormed (num text)
  | str (s : String) : WellFormed (str s)
  | arr {items : List Json} (items_wellFormed : ∀ v ∈ items, WellFormed v) : WellFormed (arr items)
  | obj {fields : List (String × Json)} (distinct : (fields.map Prod.fst).Nodup)
    (values_wellFormed : ∀ field ∈ fields, WellFormed field.2) : WellFormed (obj fields)

theorem renderItems_eq (items : List Json) : renderItems items = items.map render := by
  induction items with
  | nil => rfl
  | cons v items ih => rw [renderItems, ih, List.map_cons]

theorem renderFields_eq (fields : List (String × Json)) :
    renderFields fields = fields.map fun field => quote field.1 ++ ":" ++ render field.2 := by
  induction fields with
  | nil => rfl
  | cons field fields ih => rw [renderFields, ih, List.map_cons]

def renderField (field : String × Json) : List Char :=
  (quote field.1).toList ++ ':' :: (render field.2).toList

theorem render_arr (items : List Json) : (render (arr items)).toList =
    '[' :: ([','].intercalate (items.map fun v => (render v).toList) ++ [']']) := by
  rw [render, renderItems_eq, String.toList_append, String.toList_append, String.toList_intercalate,
    List.map_map]
  rfl

theorem render_obj (fields : List (String × Json)) : (render (obj fields)).toList =
    '\x7b' :: ([','].intercalate (fields.map renderField) ++ ['\x7d']) := by
  have texts : (renderFields fields).map String.toList = fields.map renderField := by
    rw [renderFields_eq, List.map_map]
    apply List.map_congr_left
    intro field _
    simp [renderField]
  rw [render, String.toList_append, String.toList_append, String.toList_intercalate, texts]
  rfl

inductive Kind where
  | null | bool | num | str | arr | obj
  deriving DecidableEq

def kind : Json → Kind
  | null => .null
  | bool _ => .bool
  | num _ => .num
  | str _ => .str
  | arr _ => .arr
  | obj _ => .obj

/-- The kind of a value by the first character of its text. -/
def kindOf (c : Char) : Option Kind :=
  if isNumberChar c then some .num
  else if c = 'n' then some .null
  else if c = 't' ∨ c = 'f' then some .bool
  else if c = '"' then some .str
  else if c = '[' then some .arr
  else if c = '\x7b' then some .obj
  else none

theorem WellFormed.begins {v : Json} (wellFormed : WellFormed v) :
    ∃ c rest, (render v).toList = c :: rest ∧ kindOf c = some v.kind := by
  cases wellFormed with
  | null => exact ⟨'n', _, rfl, by decide⟩
  | bool b =>
    cases b with
    | true => exact ⟨'t', _, rfl, by decide⟩
    | false => exact ⟨'f', _, rfl, by decide⟩
  | num nonempty chars =>
    obtain ⟨c, rest, text⟩ := List.exists_cons_of_ne_nil nonempty
    have number : isNumberChar c = true := chars c (by rw [text]; exact List.mem_cons_self)
    exact ⟨c, rest, text, if_pos number⟩
  | str s =>
    refine ⟨'"', s.toList.flatMap escapeChar ++ ['"'], ?_, rfl⟩
    rw [render, quote, String.toList_ofList, List.cons_append]
  | arr _ => exact ⟨'[', _, render_arr _, rfl⟩
  | obj _ _ => exact ⟨'\x7b', _, render_obj _, rfl⟩

/-- What follows does not go on with a number. -/
def Ended (rest : List Char) : Prop := ∀ c ∈ rest.head?, isNumberChar c = false

abbrev Reads (v : Json) : Prop := Readable WellFormed (fun v => (render v).toList) Ended v

theorem kind_eq {v w : Json} (wellFormed : WellFormed v) (wellFormed' : WellFormed w)
    {r r' : List Char} (same : (render v).toList ++ r = (render w).toList ++ r') :
    v.kind = w.kind := by
  obtain ⟨c, rest, text, first⟩ := wellFormed.begins
  obtain ⟨c', rest', text', first'⟩ := wellFormed'.begins
  rw [text, text'] at same
  rw [(List.cons.inj same).1] at first
  exact Option.some.inj (first.symm.trans first')

theorem ended_delimiter {c : Char} (r : List Char) (plain : isNumberChar c = false) :
    Ended (c :: r) := by
  intro x first
  obtain rfl := Option.mem_some.mp first
  exact plain

theorem bool_read {b b' : Bool} {r r' : List Char}
    (same : (render (bool b)).toList ++ r = (render (bool b')).toList ++ r') : b = b' ∧ r = r' := by
  cases b <;> cases b'
  · exact ⟨rfl, List.append_cancel_left same⟩
  · exact absurd (List.cons.inj same).1 (by decide)
  · exact absurd (List.cons.inj same).1 (by decide)
  · exact ⟨rfl, List.append_cancel_left same⟩

theorem items_read {items items' : List Json} (wellFormed : ∀ v ∈ items, WellFormed v)
    (wellFormed' : ∀ v ∈ items', WellFormed v) (reads : ∀ v ∈ items, Reads v) {r r' : List Char}
    (same : (render (arr items)).toList ++ r = (render (arr items')).toList ++ r') :
    items = items' ∧ r = r' := by
  have begins : ∀ v, WellFormed v → ∃ c s, (render v).toList = c :: s ∧ c ≠ ']' := by
    intro v wellFormed
    obtain ⟨c, rest, text, first⟩ := wellFormed.begins
    refine ⟨c, rest, text, ?_⟩
    rintro rfl
    cases first
  have stops : ∀ c r, c = ',' ∨ c = ']' → Ended (c :: r) := by
    rintro c r (rfl | rfl) <;> exact ended_delimiter r (by decide)
  rw [render_arr, render_arr, List.cons_append, List.cons_append, List.append_assoc,
    List.append_assoc] at same
  exact join_read begins (by decide) stops wellFormed reads wellFormed' (List.cons.inj same).2

theorem fields_read {fields fields' : List (String × Json)}
    (wellFormed : ∀ field ∈ fields, WellFormed field.2)
    (wellFormed' : ∀ field ∈ fields', WellFormed field.2) (reads : ∀ field ∈ fields, Reads field.2)
    {r r' : List Char}
    (same : (render (obj fields)).toList ++ r = (render (obj fields')).toList ++ r') :
    fields = fields' ∧ r = r' := by
  have begins : ∀ field, WellFormed field.2 → ∃ c s, renderField field = c :: s ∧ c ≠ '\x7d' := by
    intro field _
    refine ⟨'"', field.1.toList.flatMap escapeChar ++ ['"'] ++ ':' :: (render field.2).toList, ?_, by decide⟩
    simp [renderField, quote]
  have stops : ∀ c r, c = ',' ∨ c = '\x7d' → Ended (c :: r) := by
    rintro c r (rfl | rfl) <;> exact ended_delimiter r (by decide)
  have readable : ∀ field ∈ fields,
      Readable (fun field : String × Json => WellFormed field.2) renderField Ended field := by
    intro field member other wellFormed' r r' ended ended' same
    simp only [renderField, List.append_assoc] at same
    obtain ⟨keys, rest⟩ := quote_read same
    obtain ⟨values, rest⟩ := reads field member other.2 wellFormed' r r' ended ended' (List.cons.inj rest).2
    exact ⟨Prod.ext keys values, rest⟩
  rw [render_obj, render_obj, List.cons_append, List.cons_append, List.append_assoc,
    List.append_assoc] at same
  exact join_read begins (by decide) stops wellFormed readable wellFormed' (List.cons.inj same).2

/-- The text of a value determines the value and where its text ends. -/
theorem WellFormed.reads {v : Json} (wellFormed : WellFormed v) : Reads v := by
  induction wellFormed with
  | null =>
    intro w wellFormed' r r' _ _ same
    have kinds := kind_eq .null wellFormed' same
    cases wellFormed' with
    | null => exact ⟨rfl, List.append_cancel_left same⟩
    | _ => cases kinds
  | bool b =>
    intro w wellFormed' r r' _ _ same
    have kinds := kind_eq (.bool b) wellFormed' same
    cases wellFormed' with
    | bool b' =>
      obtain ⟨rfl, rest⟩ := bool_read same
      exact ⟨rfl, rest⟩
    | _ => cases kinds
  | num nonempty chars =>
    intro w wellFormed' r r' ended ended' same
    have kinds := kind_eq (.num nonempty chars) wellFormed' same
    cases wellFormed' with
    | num nonempty' chars' =>
      obtain ⟨texts, rest⟩ := cut_where chars chars'
        (fun c first => by rw [ended c first]; exact Bool.false_ne_true)
        (fun c first => by rw [ended' c first]; exact Bool.false_ne_true) same
      rw [String.toList_inj.mp texts]
      exact ⟨rfl, rest⟩
    | _ => cases kinds
  | str s =>
    intro w wellFormed' r r' _ _ same
    have kinds := kind_eq (.str s) wellFormed' same
    cases wellFormed' with
    | str s' =>
      obtain ⟨rfl, rest⟩ := quote_read same
      exact ⟨rfl, rest⟩
    | _ => cases kinds
  | arr items_wellFormed ih =>
    intro w wellFormed' r r' _ _ same
    have kinds := kind_eq (.arr items_wellFormed) wellFormed' same
    cases wellFormed' with
    | arr items_wellFormed' =>
      obtain ⟨rfl, rest⟩ := items_read items_wellFormed items_wellFormed' ih same
      exact ⟨rfl, rest⟩
    | _ => cases kinds
  | obj distinct values_wellFormed ih =>
    intro w wellFormed' r r' _ _ same
    have kinds := kind_eq (.obj distinct values_wellFormed) wellFormed' same
    cases wellFormed' with
    | obj distinct' values_wellFormed' =>
      obtain ⟨rfl, rest⟩ := fields_read values_wellFormed values_wellFormed' ih same
      exact ⟨rfl, rest⟩
    | _ => cases kinds

theorem WellFormed.render_inj {v w : Json} (wellFormed : WellFormed v) (wellFormed' : WellFormed w)
    (same : render v = render w) : v = w := by
  have ended : Ended [] := fun c first => nomatch first
  have texts : (render v).toList ++ [] = (render w).toList ++ [] := by rw [same]
  exact (wellFormed.reads w wellFormed' [] [] ended ended texts).1

end GrokingClawId.Json
