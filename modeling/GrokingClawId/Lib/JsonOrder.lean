import GrokingClawId.Lib.JsonText

/-!
# JSON values up to the order of keys

Values that have the same fields in another order, at every level, are those that are equal once the
keys are sorted.
-/

namespace GrokingClawId.Json

/-- Equal up to the order of keys at every level. -/
inductive UpToKeyOrder : Json → Json → Prop where
  | null : UpToKeyOrder null null
  | bool (b : Bool) : UpToKeyOrder (bool b) (bool b)
  | num (text : String) : UpToKeyOrder (num text) (num text)
  | str (s : String) : UpToKeyOrder (str s) (str s)
  | arr {items items' : List Json} (length : items.length = items'.length)
    (same : ∀ (i : Nat) (v v' : Json), items[i]? = some v → items'[i]? = some v' → UpToKeyOrder v v') :
    UpToKeyOrder (arr items) (arr items')
  | obj {fields fields' : List (String × Json)}
    (keys : (fields.map Prod.fst).Perm (fields'.map Prod.fst))
    (same : ∀ key v v', (key, v) ∈ fields → (key, v') ∈ fields' → UpToKeyOrder v v') :
    UpToKeyOrder (obj fields) (obj fields')

/-! ### Sorted keys -/

section Keys
variable {α β : Type}

def sortByKey (entries : List (String × α)) : List (String × α) :=
  entries.insertionSort fun a b => a.1 ≤ b.1

theorem sortByKey_perm (entries : List (String × α)) : (sortByKey entries).Perm entries :=
  List.perm_insertionSort _ entries

theorem sortByKey_sorted (entries : List (String × α)) :
    (sortByKey entries).Pairwise fun a b => a.1 ≤ b.1 := by
  have total : Std.Total fun a b : String × α => a.1 ≤ b.1 := ⟨fun a b => le_total a.1 b.1⟩
  have trans : IsTrans (String × α) fun a b => a.1 ≤ b.1 := ⟨fun a b c => le_trans⟩
  exact List.pairwise_insertionSort _ _

theorem sortByKey_map (f : α → β) (entries : List (String × α)) :
    (sortByKey entries).map (fun entry => (entry.1, f entry.2)) =
      sortByKey (entries.map fun entry => (entry.1, f entry.2)) :=
  List.map_insertionSort _ _ _ _ fun _ _ _ _ => Iff.rfl

theorem eq_of_key {entries : List (String × α)} (distinct : (entries.map Prod.fst).Nodup)
    {key : String} {a b : α} (first : (key, a) ∈ entries) (second : (key, b) ∈ entries) :
    a = b := by
  have pairs := List.inj_on_of_nodup_map distinct first second rfl
  exact (Prod.mk.inj pairs).2

/-- With distinct keys the order of the entries does not matter. -/
theorem sortByKey_congr {entries entries' : List (String × α)}
    (distinct : (entries.map Prod.fst).Nodup) (same : entries.Perm entries') :
    sortByKey entries = sortByKey entries' := by
  have perm := (sortByKey_perm entries).trans (same.trans (sortByKey_perm entries').symm)
  apply List.Perm.eq_of_pairwise _ (sortByKey_sorted entries) (sortByKey_sorted entries') perm
  rintro ⟨key, a⟩ ⟨key', b⟩ member member' below above
  obtain rfl : key = key' := le_antisymm below above
  have first := (sortByKey_perm entries).mem_iff.mp member
  have second := same.mem_iff.mpr ((sortByKey_perm entries').mem_iff.mp member')
  rw [eq_of_key distinct first second]

end Keys

mutual

def sortKeys : Json → Json
  | obj fields => obj (sortByKey (sortFields fields))
  | arr items => arr (sortItems items)
  | null => null
  | bool b => bool b
  | num text => num text
  | str s => str s

def sortItems : List Json → List Json
  | [] => []
  | v :: items => sortKeys v :: sortItems items

def sortFields : List (String × Json) → List (String × Json)
  | [] => []
  | (key, v) :: fields => (key, sortKeys v) :: sortFields fields

end

theorem sortItems_eq (items : List Json) : sortItems items = items.map sortKeys := by
  induction items with
  | nil => rfl
  | cons v items ih => rw [sortItems, ih, List.map_cons]

theorem sortFields_eq (fields : List (String × Json)) :
    sortFields fields = fields.map fun field => (field.1, sortKeys field.2) := by
  induction fields with
  | nil => rfl
  | cons field fields ih => rw [sortFields, ih, List.map_cons]

theorem sortFields_keys (fields : List (String × Json)) :
    (sortFields fields).map Prod.fst = fields.map Prod.fst := by
  rw [sortFields_eq, List.map_map]
  rfl

theorem mem_sortFields {fields : List (String × Json)} {key : String} {v : Json}
    (member : (key, v) ∈ fields) : (key, sortKeys v) ∈ sortFields fields := by
  rw [sortFields_eq]
  exact List.mem_map.mpr ⟨(key, v), member, rfl⟩

theorem of_mem_sortFields {fields : List (String × Json)} {key : String} {u : Json}
    (member : (key, u) ∈ sortFields fields) : ∃ v, (key, v) ∈ fields ∧ u = sortKeys v := by
  rw [sortFields_eq] at member
  obtain ⟨⟨key', v⟩, present, equal⟩ := List.mem_map.mp member
  obtain ⟨rfl, rfl⟩ := Prod.mk.inj equal
  exact ⟨v, present, rfl⟩

theorem kind_sortKeys (v : Json) : (sortKeys v).kind = v.kind := by
  cases v <;> simp only [sortKeys, kind]

theorem WellFormed.sortKeys {v : Json} (wellFormed : WellFormed v) : WellFormed (sortKeys v) := by
  induction wellFormed with
  | null => simpa only [Json.sortKeys] using WellFormed.null
  | bool b => simpa only [Json.sortKeys] using WellFormed.bool b
  | num nonempty chars => simpa only [Json.sortKeys] using WellFormed.num nonempty chars
  | str s => simpa only [Json.sortKeys] using WellFormed.str s
  | arr _ ih =>
    rw [Json.sortKeys, sortItems_eq]
    refine .arr fun v member => ?_
    obtain ⟨item, present, rfl⟩ := List.mem_map.mp member
    exact ih item present
  | @obj fields distinct _ ih =>
    rw [Json.sortKeys]
    refine .obj ?_ fun field member => ?_
    · rw [((sortByKey_perm (sortFields fields)).map Prod.fst).nodup_iff, sortFields_keys]
      exact distinct
    · have present := (sortByKey_perm (sortFields fields)).mem_iff.mp member
      rw [sortFields_eq] at present
      obtain ⟨original, listed, rfl⟩ := List.mem_map.mp present
      exact ih original listed

theorem UpToKeyOrder.sortKeys_eq {v w : Json} (same : UpToKeyOrder v w) (wellFormed : WellFormed v)
    (wellFormed' : WellFormed w) : sortKeys v = sortKeys w := by
  induction same with
  | null | bool | num | str => rfl
  | arr length same ih =>
    cases wellFormed with | arr items_wellFormed =>
    cases wellFormed' with | arr items_wellFormed' =>
    rw [sortKeys, sortKeys, sortItems_eq, sortItems_eq]
    congr 1
    apply List.ext_getElem (by rw [List.length_map, List.length_map, length])
    intro i inside inside'
    rw [List.length_map] at inside inside'
    rw [List.getElem_map, List.getElem_map]
    exact ih i _ _ (List.getElem?_eq_getElem inside) (List.getElem?_eq_getElem inside')
      (items_wellFormed _ (List.getElem_mem inside)) (items_wellFormed' _ (List.getElem_mem inside'))
  | @obj fields fields' keys same ih =>
    cases wellFormed with | obj distinct values_wellFormed =>
    cases wellFormed' with | obj distinct' values_wellFormed' =>
    rw [sortKeys, sortKeys]
    congr 1
    apply sortByKey_congr (by rw [sortFields_keys]; exact distinct)
    have nodup : (sortFields fields).Nodup :=
      List.Nodup.of_map Prod.fst (by rw [sortFields_keys]; exact distinct)
    have nodup' : (sortFields fields').Nodup :=
      List.Nodup.of_map Prod.fst (by rw [sortFields_keys]; exact distinct')
    apply (List.perm_ext_iff_of_nodup nodup nodup').mpr
    rintro ⟨key, u⟩
    constructor
    · intro member
      obtain ⟨v, present, rfl⟩ := of_mem_sortFields member
      obtain ⟨⟨key', v'⟩, present', equal⟩ :=
        List.mem_map.mp (keys.subset (List.mem_map_of_mem present))
      obtain rfl : key = key' := equal.symm
      rw [ih key v v' present present' (values_wellFormed _ present) (values_wellFormed' _ present')]
      exact mem_sortFields present'
    · intro member
      obtain ⟨v', present', rfl⟩ := of_mem_sortFields member
      obtain ⟨⟨key', v⟩, present, equal⟩ :=
        List.mem_map.mp (keys.symm.subset (List.mem_map_of_mem present'))
      obtain rfl : key = key' := equal.symm
      rw [← ih key v v' present present' (values_wellFormed _ present) (values_wellFormed' _ present')]
      exact mem_sortFields present

theorem upToKeyOrder_of_sortKeys {v w : Json} (wellFormed : WellFormed v)
    (wellFormed' : WellFormed w) (same : sortKeys v = sortKeys w) : UpToKeyOrder v w := by
  have kinds : v.kind = w.kind := by rw [← kind_sortKeys v, same, kind_sortKeys]
  induction wellFormed generalizing w with
  | null => cases wellFormed' with
    | null => exact .null
    | _ => cases kinds
  | bool b => cases wellFormed' with
    | bool b' =>
      simp only [sortKeys] at same
      obtain rfl := Json.bool.inj same
      exact .bool b
    | _ => cases kinds
  | num nonempty chars => cases wellFormed' with
    | num nonempty' chars' =>
      simp only [sortKeys] at same
      obtain rfl := Json.num.inj same
      exact .num _
    | _ => cases kinds
  | str s => cases wellFormed' with
    | str s' =>
      simp only [sortKeys] at same
      obtain rfl := Json.str.inj same
      exact .str s
    | _ => cases kinds
  | @arr items items_wellFormed ih => cases wellFormed' with
    | @arr items' items_wellFormed' =>
      rw [sortKeys, sortKeys, sortItems_eq, sortItems_eq] at same
      have sorted := Json.arr.inj same
      have lengths := congrArg List.length sorted
      rw [List.length_map, List.length_map] at lengths
      refine .arr lengths fun i v v' at_i at_i' => ?_
      have both := congrArg (·[i]?) sorted
      simp only [List.getElem?_map, at_i, at_i', Option.map_some] at both
      have equal := Option.some.inj both
      exact ih v (List.mem_of_getElem? at_i) (items_wellFormed' v' (List.mem_of_getElem? at_i')) equal
        (by rw [← kind_sortKeys v, equal, kind_sortKeys])
    | _ => cases kinds
  | @obj fields distinct values_wellFormed ih => cases wellFormed' with
    | @obj fields' distinct' values_wellFormed' =>
      rw [sortKeys, sortKeys] at same
      have sorted := Json.obj.inj same
      have perm : (sortFields fields).Perm (sortFields fields') :=
        (sortByKey_perm _).symm.trans (sorted ▸ sortByKey_perm _)
      refine .obj ?_ fun key v v' present present' => ?_
      · rw [← sortFields_keys fields, ← sortFields_keys fields']
        exact perm.map Prod.fst
      · have unique : ((sortFields fields').map Prod.fst).Nodup := by
          rw [sortFields_keys]
          exact distinct'
        have equal := eq_of_key unique (perm.subset (mem_sortFields present)) (mem_sortFields present')
        exact ih (key, v) present (values_wellFormed' (key, v') present') equal
          (by rw [← kind_sortKeys v, equal, kind_sortKeys])
    | _ => cases kinds

theorem sortKeys_eq_iff {v w : Json} (wellFormed : WellFormed v) (wellFormed' : WellFormed w) :
    sortKeys v = sortKeys w ↔ UpToKeyOrder v w :=
  ⟨upToKeyOrder_of_sortKeys wellFormed wellFormed', fun same => same.sortKeys_eq wellFormed wellFormed'⟩

/-! ### Fields -/

theorem mem_of_lookup {fields : List (String × Json)} {key : String} {v : Json}
    (found : fields.lookup key = some v) : (key, v) ∈ fields := by
  obtain ⟨before, after, rfl, _⟩ := List.lookup_eq_some_iff.mp found
  simp

theorem lookup_none_iff {fields : List (String × Json)} {key : String} :
    fields.lookup key = none ↔ key ∉ fields.map Prod.fst := by
  rw [List.lookup_eq_none_iff, List.mem_map]
  constructor
  · rintro other ⟨field, member, rfl⟩
    simpa using other field member
  · intro missing field member
    rw [bne_iff_ne]
    rintro rfl
    exact missing ⟨field, member, rfl⟩

/-- Fields that are there have values that are equal up to the order of keys, and a field that is
missing is missing in both. -/
theorem UpToKeyOrder.get {v w : Json} (same : UpToKeyOrder v w) (key : String) :
    (v.get key = none ↔ w.get key = none) ∧
      ∀ x y, v.get key = some x → w.get key = some y → UpToKeyOrder x y := by
  cases same with
  | @obj fields fields' keys same =>
    refine ⟨?_, fun x y first second => same key x y (mem_of_lookup first) (mem_of_lookup second)⟩
    show fields.lookup key = none ↔ fields'.lookup key = none
    rw [lookup_none_iff, lookup_none_iff, keys.mem_iff]
  | _ => exact ⟨Iff.rfl, fun x y first => nomatch first⟩

theorem UpToKeyOrder.str_inj {s t : String} (same : UpToKeyOrder (.str s) (.str t)) : s = t := by
  cases same
  rfl

theorem UpToKeyOrder.get_str {v w : Json} (same : UpToKeyOrder v w) {key : String}
    {a b : Option String} (first : v.get key = a.map Json.str)
    (second : w.get key = b.map Json.str) : a = b := by
  obtain ⟨missing, values⟩ := same.get key
  rw [first, second] at missing values
  cases a with
  | none => exact (Option.map_eq_none_iff.mp (missing.mp rfl)).symm
  | some s =>
    cases b with
    | none => cases missing.mpr rfl
    | some t =>
      rw [(values (.str s) (.str t) rfl rfl).str_inj]

theorem upToKeyOrder_strings {a b : List String}
    (same : UpToKeyOrder (arr (a.map str)) (arr (b.map str))) :
    a = b := by
  cases same with | arr length same =>
  rw [List.length_map, List.length_map] at length
  apply List.ext_getElem length
  intro i inside inside'
  exact (same i (.str a[i]) (.str b[i]) (by simp) (by simp)).str_inj

end GrokingClawId.Json
