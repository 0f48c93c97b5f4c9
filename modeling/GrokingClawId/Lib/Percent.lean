import GrokingClawId.Lib.Codec
import GrokingClawId.Lib.Text
import GrokingClawId.Lib.Utf8

/-!
# Percent-encoding

Values in the query of a URL. What is written is read back, and no value can end its parameter or start
another one.
-/

namespace GrokingClawId.Percent
open Text

def unreserved (c : Char) : Bool := c.isAlphanum || c == '-' || c == '_' || c == '.' || c == '~'

def upperDigit (n : Nat) : Char := if n < 10 then Char.ofNat (48 + n) else Char.ofNat (55 + n)

def encodeByte (b : UInt8) : List Char :=
  if unreserved (Char.ofNat b.toNat) then [Char.ofNat b.toNat]
  else ['%', upperDigit (b.toNat / 16), upperDigit (b.toNat % 16)]

/-- Everything but the unreserved characters is escaped. -/
def encode (text : String) : List Char := (Utf8.encode text).flatMap encodeByte

def decodeBytes : List Char → Option (List UInt8)
  | [] => some []
  | c :: s =>
    if c = '%' then
      match s with
      | a :: b :: rest => do
        let high ← Codec.hexValue a
        let low ← Codec.hexValue b
        let bytes ← decodeBytes rest
        some (UInt8.ofNat (16 * high + low) :: bytes)
      | _ => none
    else if c.toNat < 128 then do
      let bytes ← decodeBytes s
      some (UInt8.ofNat c.toNat :: bytes)
    else none

def decode (s : List Char) : Option String := (decodeBytes s).bind Utf8.decode

/-! ### Values -/

theorem hexValue_upperDigit : ∀ n < 16, Codec.hexValue (upperDigit n) = some n := by decide

theorem isAlphanum_small {c : Char} (alphanum : c.isAlphanum = true) : c.toNat < 128 := by
  have below (last : UInt32) (narrow : last.toNat < 128) (upto : decide (c.val ≤ last) = true) :
      c.toNat < 128 :=
    lt_of_le_of_lt (UInt32.le_iff_toNat_le.mp (of_decide_eq_true upto)) narrow
  rcases Bool.or_eq_true_iff.mp (show (c.isAlpha || c.isDigit) = true from alphanum) with alpha | digit
  · rcases Bool.or_eq_true_iff.mp (show (c.isUpper || c.isLower) = true from alpha) with upper | lower
    · exact below 'Z'.val (by decide) (decide_eq_true (of_decide_eq_true upper).2)
    · exact below 'z'.val (by decide) (Bool.and_eq_true_iff.mp lower).2
  · exact below '9'.val (by decide) (Bool.and_eq_true_iff.mp digit).2

theorem unreserved_small {c : Char} (plain : unreserved c = true) : c.toNat < 128 ∧ c ≠ '%' := by
  constructor
  · simp only [unreserved, Bool.or_eq_true, beq_iff_eq] at plain
    rcases plain with (((alphanum | rfl) | rfl) | rfl) | rfl
    · exact isAlphanum_small alphanum
    all_goals decide
  · rintro rfl
    revert plain
    decide

theorem decodeBytes_plain {c : Char} (small : c.toNat < 128) (other : c ≠ '%') (s : List Char) :
    decodeBytes (c :: s) = (decodeBytes s).map (UInt8.ofNat c.toNat :: ·) := by
  rw [decodeBytes.eq_def (c :: s)]
  dsimp only
  rw [if_neg other, if_pos small]
  cases decodeBytes s <;> rfl

theorem decodeBytes_encodeByte (b : UInt8) (rest : List Char) :
    decodeBytes (encodeByte b ++ rest) = (decodeBytes rest).map (b :: ·) := by
  have size := b.toNat_lt
  unfold encodeByte
  split
  · rename_i plain
    obtain ⟨small, other⟩ := unreserved_small plain
    have valid : b.toNat.isValidChar := .inl (by omega)
    have value : (Char.ofNat b.toNat).toNat = b.toNat := by
      rw [Char.ofNat, dif_pos valid]
      rfl
    rw [List.singleton_append, decodeBytes_plain small other, value, UInt8.ofNat_toNat]
  · have high := hexValue_upperDigit (b.toNat / 16) (by omega)
    have low := hexValue_upperDigit (b.toNat % 16) (by omega)
    have whole : 16 * (b.toNat / 16) + b.toNat % 16 = b.toNat := Nat.div_add_mod _ _
    simp only [List.cons_append, List.nil_append, decodeBytes, high, low, whole, UInt8.ofNat_toNat,
      Option.bind_eq_bind, Option.bind_some, if_true]
    cases decodeBytes rest <;> rfl

theorem decodeBytes_encode (bytes : List UInt8) : decodeBytes (bytes.flatMap encodeByte) = some bytes := by
  induction bytes with
  | nil => rfl
  | cons b bytes ih => rw [List.flatMap_cons, decodeBytes_encodeByte, ih, Option.map_some]

theorem decode_encode (text : String) : decode (encode text) = some text := by
  rw [decode, encode, decodeBytes_encode, Option.bind_some, Utf8.decode_encode]

theorem encode_chars {text : String} {c : Char} (member : c ∈ encode text) :
    unreserved c = true ∨ c = '%' := by
  obtain ⟨b, _, inside⟩ := List.mem_flatMap.mp member
  have size := b.toNat_lt
  have digit : ∀ n < 16, unreserved (upperDigit n) = true := by decide
  unfold encodeByte at inside
  split at inside
  · rename_i plain
    rw [List.mem_singleton.mp inside]
    exact .inl plain
  · simp only [List.mem_cons, List.not_mem_nil, or_false] at inside
    rcases inside with rfl | rfl | rfl
    · exact .inr rfl
    · exact .inl (digit _ (by omega))
    · exact .inl (digit _ (by omega))

theorem not_mem_encode {c : Char} (reserved : unreserved c = false) (other : c ≠ '%') (text : String) :
    c ∉ encode text := by
  intro member
  rcases encode_chars member with plain | escape
  · rw [plain] at reserved
    cases reserved
  · exact other escape

/-- A character that is not escaped stands for itself. -/
theorem decodeBytes_mem {c : Char} (small : c.toNat < 128) (other : c ≠ '%')
    (noDigit : Codec.hexValue c = none)
    {s : List Char} {bytes : List UInt8} (decoded : decodeBytes s = some bytes) (member : c ∈ s) :
    UInt8.ofNat c.toNat ∈ bytes := by
  fun_induction decodeBytes s generalizing bytes with
  | case1 => cases member
  | case2 a b rest ih =>
    obtain ⟨high, first, decoded⟩ := Option.bind_eq_some_iff.mp decoded
    obtain ⟨low, second, decoded⟩ := Option.bind_eq_some_iff.mp decoded
    obtain ⟨later, third, same⟩ := Option.bind_eq_some_iff.mp decoded
    obtain rfl := Option.some.inj same
    simp only [List.mem_cons] at member
    rcases member with rfl | rfl | rfl | inside
    · exact absurd rfl other
    · rw [noDigit] at first
      cases first
    · rw [noDigit] at second
      cases second
    · exact List.mem_cons_of_mem _ (ih third inside)
  | case3 s short => cases decoded
  | case4 x s notEscape narrow ih =>
    obtain ⟨later, rest, same⟩ := Option.bind_eq_some_iff.mp decoded
    obtain rfl := Option.some.inj same
    rcases List.mem_cons.mp member with rfl | inside
    · exact List.mem_cons_self
    · exact List.mem_cons_of_mem _ (ih rest inside)
  | case5 x s notEscape wide => cases decoded

theorem decode_mem {c : Char} (small : c.toNat < 128) (other : c ≠ '%') (noDigit : Codec.hexValue c = none)
    {s : List Char} {text : String} (decoded : decode s = some text) (member : c ∈ s) : c ∈ text.toList := by
  obtain ⟨bytes, read, valid⟩ := Option.bind_eq_some_iff.mp decoded
  have inside := decodeBytes_mem small other noDigit read member
  rw [← Utf8.encode_of_decode valid] at inside
  have byte : (UInt8.ofNat c.toNat).toNat = c.toNat := UInt8.toNat_ofNat_of_lt (lt_trans small (by decide))
  rw [Utf8.ascii_mem_encode (by omega), byte, Char.ofNat_toNat] at inside
  exact inside

/-! ### Queries -/

def pair (key value : String) : List Char := encode key ++ '=' :: encode value

def query (pairs : List (String × String)) : List Char := ['&'].intercalate (pairs.map fun p => pair p.1 p.2)

def readPair (piece : List Char) : Option (String × String) := do
  let (key, value) ← splitOnce '=' piece
  let key ← decode key
  let value ← decode value
  some (key, value)

def readQuery (s : List Char) : Option (List (String × String)) := (s.splitOn '&').mapM readPair

theorem readPair_pair (key value : String) : readPair (pair key value) = some (key, value) := by
  have free : '=' ∉ encode key := not_mem_encode (by decide) (by decide) key
  simp only [readPair, pair, splitOnce_append free, decode_encode, Option.bind_eq_bind, Option.bind_some]

theorem amp_not_mem_pair (key value : String) : '&' ∉ pair key value := by
  have free (text : String) : '&' ∉ encode text := not_mem_encode (by decide) (by decide) text
  rw [pair, List.mem_append, List.mem_cons, not_or, not_or]
  exact ⟨free key, by decide, free value⟩

/-- The parameters are read back one by one, whatever is in their values. -/
theorem readQuery_query {pairs : List (String × String)} (some_pair : pairs ≠ []) :
    readQuery (query pairs) = some pairs := by
  have reads : (readPair ∘ fun p : String × String => pair p.1 p.2) = fun p => some p :=
    funext fun p => readPair_pair p.1 p.2
  have whole : pairs.mapM (fun p => (some p : Option (String × String))) = some pairs := by
    rw [show (fun p => (some p : Option (String × String))) = fun p => pure (id p) from rfl, List.mapM_pure,
      List.map_id]
    rfl
  rw [readQuery, query, List.splitOn_intercalate, List.mapM_map, reads, whole]
  · intro piece member
    obtain ⟨p, _, rfl⟩ := List.mem_map.mp member
    exact amp_not_mem_pair p.1 p.2
  · simpa using some_pair

theorem readQuery_length {s : List Char} {pairs : List (String × String)} (read : readQuery s = some pairs) :
    (s.splitOn '&').length = pairs.length := by
  unfold readQuery at read
  generalize s.splitOn '&' = pieces at read
  induction pieces generalizing pairs with
  | nil =>
    obtain rfl := Option.some.inj read
    rfl
  | cons piece pieces ih =>
    rw [List.mapM_cons] at read
    obtain ⟨p, _, read⟩ := Option.bind_eq_some_iff.mp read
    obtain ⟨rest, later, same⟩ := Option.bind_eq_some_iff.mp read
    obtain rfl := Option.some.inj same
    rw [List.length_cons, List.length_cons, ih later]

/-! ### Queries of URLs -/

theorem encodeByte_plain {c : Char} (plain : unreserved c = true) :
    encodeByte (UInt8.ofNat c.toNat) = [c] := by
  have small := (unreserved_small plain).1
  have value : (UInt8.ofNat c.toNat).toNat = c.toNat := UInt8.toNat_ofNat_of_lt (lt_trans small (by decide))
  rw [encodeByte, value, Char.ofNat_toNat, if_pos plain]

theorem encode_plain {text : String} (plain : ∀ c ∈ text.toList, unreserved c = true) :
    encode text = text.toList := by
  rw [encode, Utf8.encode_chars, List.flatMap_assoc]
  generalize text.toList = s at plain
  induction s with
  | nil => rfl
  | cons c s ih =>
    have first := plain c List.mem_cons_self
    have narrow : c.val.toNat ≤ 127 := Nat.le_of_lt_succ (unreserved_small first).1
    have one : String.utf8EncodeChar c = [UInt8.ofNat c.toNat] := by
      unfold String.utf8EncodeChar
      rw [if_pos narrow]
      rfl
    rw [List.flatMap_cons, ih fun x member => plain x (List.mem_cons_of_mem _ member), one,
      List.flatMap_singleton,
      encodeByte_plain first, List.singleton_append]

theorem pair_plain {key : String} (plain : ∀ c ∈ key.toList, unreserved c = true) (value : String) :
    pair key value = key.toList ++ '=' :: encode value := by
  rw [pair, encode_plain plain]

/-- What stands between the first `?` and the fragment. -/
def urlQuery (url : List Char) : Option (List Char) := (splitOnce '?' (url.takeWhile (· ≠ '#'))).map Prod.snd

def readUrl (url : List Char) : Option (List (String × String)) := (urlQuery url).bind readQuery

theorem query_cons_cons (p q : String × String) (pairs : List (String × String)) :
    query (p :: q :: pairs) = pair p.1 p.2 ++ '&' :: query (q :: pairs) := by
  simp only [query, List.map_cons, List.intercalate_cons_cons, List.append_assoc, List.singleton_append]

theorem query_singleton (p : String × String) : query [p] = pair p.1 p.2 := by
  rw [query, List.map_singleton, List.intercalate_singleton]

theorem not_mem_query {c : Char} (reserved : unreserved c = false) (escape : c ≠ '%') (equals : c ≠ '=')
    (amp : c ≠ '&')
    (pairs : List (String × String)) : c ∉ query pairs := by
  have free (p : String × String) : c ∉ pair p.1 p.2 := by
    rw [pair, List.mem_append, List.mem_cons, not_or, not_or]
    exact ⟨not_mem_encode reserved escape p.1, equals, not_mem_encode reserved escape p.2⟩
  induction pairs with
  | nil => exact List.not_mem_nil
  | cons p pairs ih =>
    cases pairs with
    | nil =>
      rw [query_singleton]
      exact free p
    | cons q pairs =>
      rw [query_cons_cons, List.mem_append, List.mem_cons, not_or, not_or]
      exact ⟨free p, amp, ih⟩

theorem urlQuery_plain {base s : List Char} (noFragment : '#' ∉ base ++ s) (noQuery : '?' ∉ base) :
    urlQuery (base ++ '?' :: s) = some s := by
  have whole : (base ++ '?' :: s).takeWhile (· ≠ '#') = base ++ '?' :: s := by
    refine List.takeWhile_eq_self_iff.mpr fun c member => decide_eq_true ?_
    rintro rfl
    simp only [List.mem_append, List.mem_cons, not_or] at noFragment member
    rcases member with inside | h | inside
    · exact noFragment.1 inside
    · cases h
    · exact noFragment.2 inside
  rw [urlQuery, whole, splitOnce_append noQuery, Option.map_some]

theorem readUrl_query {base : List Char} (noQuery : '?' ∉ base) (noFragment : '#' ∉ base)
    {pairs : List (String × String)} (some_pair : pairs ≠ []) :
    readUrl (base ++ '?' :: query pairs) = some pairs := by
  have free : '#' ∉ base ++ query pairs := by
    rw [List.mem_append, not_or]
    exact ⟨noFragment, not_mem_query (by decide) (by decide) (by decide) (by decide) pairs⟩
  rw [readUrl, urlQuery_plain free noQuery, Option.bind_some, readQuery_query some_pair]

/-- Behind a fragment nothing is read. -/
theorem readUrl_fragment {base : List Char} (inside : '#' ∈ base) (s t : List Char) :
    readUrl (base ++ s) = readUrl (base ++ t) := by
  have cut (s : List Char) : (base ++ s).takeWhile (· ≠ '#') = base.takeWhile (· ≠ '#') := by
    obtain ⟨before, after, rfl, free⟩ := List.eq_append_cons_of_mem inside
    have clean : ∀ c ∈ before, decide (c ≠ '#') = true := fun c member =>
      decide_eq_true fun same => free (same ▸ member)
    rw [List.append_assoc, List.takeWhile_append_of_pos clean, List.takeWhile_append_of_pos clean,
      List.cons_append,
      List.takeWhile_cons_of_neg (by decide), List.takeWhile_cons_of_neg (by decide)]
  rw [readUrl, readUrl, urlQuery, urlQuery, cut, cut]

theorem length_splitOn_le (sep : Char) (s t : List Char) :
    (t.splitOn sep).length ≤ ((s ++ t).splitOn sep).length := by
  induction s with
  | nil => exact Nat.le_refl _
  | cons c s ih =>
    rw [List.cons_append, List.splitOn_cons_eq_if_modifyHead]
    split
    · exact Nat.le_succ_of_le ih
    · rwa [List.length_modifyHead]

theorem splitOn_prefix {sep : Char} {s : List Char} (free : sep ∉ s) (t : List Char) :
    (s ++ t).splitOn sep = (t.splitOn sep).modifyHead (s ++ ·) := by
  induction s with
  | nil =>
    rw [List.nil_append]
    cases t.splitOn sep <;> rfl
  | cons c s ih =>
    rw [List.mem_cons, not_or] at free
    rw [List.cons_append, List.splitOn_cons_eq_if_modifyHead,
      if_neg (by simpa using Ne.symm free.1), ih free.2]
    cases t.splitOn sep <;> rfl

/-- A base with a query of its own spoils the first parameter or adds one. -/
theorem readUrl_foreign {base : List Char} (inside : '?' ∈ base) (noFragment : '#' ∉ base)
    {key value : String}
    (pairs : List (String × String)) (plainKey : '?' ∉ key.toList) (plainValue : '?' ∉ value.toList) :
    readUrl (base ++ '?' :: query ((key, value) :: pairs)) ≠ some ((key, value) :: pairs) := by
  intro read
  obtain ⟨front, own, rfl, free⟩ := List.eq_append_cons_of_mem inside
  have fragment : '#' ∉ query ((key, value) :: pairs) :=
    not_mem_query (by decide) (by decide) (by decide) (by decide) _
  have clean : '#' ∉ front ++ (own ++ '?' :: query ((key, value) :: pairs)) := by
    simp only [List.mem_append, List.mem_cons, not_or] at noFragment ⊢
    exact ⟨noFragment.1, noFragment.2.2, by decide, fragment⟩
  rw [readUrl, List.append_assoc, List.cons_append, urlQuery_plain clean free, Option.bind_some] at read
  have count := readQuery_length (readQuery_query (List.cons_ne_nil (key, value) pairs))
  by_cases more : '&' ∈ own
  · obtain ⟨first, rest, rfl, _⟩ := List.eq_append_cons_of_mem more
    have length := readQuery_length read
    have least := length_splitOn_le '&' (rest ++ ['?']) (query ((key, value) :: pairs))
    have some_piece := List.length_pos_iff.mpr (List.splitOn_ne_nil '&' first)
    rw [List.append_assoc, List.cons_append, List.splitOn_append_cons_self, List.length_append] at length
    rw [List.append_assoc, List.singleton_append] at least
    omega
  · have alone : '&' ∉ own ++ ['?'] := by
      rw [List.mem_append, not_or]
      exact ⟨more, by decide⟩
    have pieces : (query ((key, value) :: pairs)).splitOn '&' = ((key, value) :: pairs).map fun p =>
        pair p.1 p.2 := by
      rw [query, List.splitOn_intercalate]
      · intro piece member
        obtain ⟨p, _, rfl⟩ := List.mem_map.mp member
        exact amp_not_mem_pair p.1 p.2
      · simp
    rw [readQuery, show own ++ '?' :: query ((key, value) :: pairs) =
      (own ++ ['?']) ++ query ((key, value) :: pairs) by
      simp, splitOn_prefix alone, pieces, List.map_cons, List.modifyHead_cons, List.mapM_cons] at read
    obtain ⟨p, first, read⟩ := Option.bind_eq_some_iff.mp read
    obtain ⟨rest, _, same⟩ := Option.bind_eq_some_iff.mp read
    obtain ⟨rfl, _⟩ := List.cons.inj (Option.some.inj same)
    obtain ⟨⟨k, v⟩, cut, first⟩ := Option.bind_eq_some_iff.mp first
    obtain ⟨key', keyRead, first⟩ := Option.bind_eq_some_iff.mp first
    obtain ⟨value', valueRead, same⟩ := Option.bind_eq_some_iff.mp first
    obtain ⟨rfl, rfl⟩ := Prod.mk.inj (Option.some.inj same)
    have member : '?' ∈ k ++ '=' :: v := by
      rw [← (splitOnce_eq_some cut).2]
      simp
    rcases List.mem_append.mp member with left | right
    · exact plainKey (decode_mem (by decide) (by decide) (by decide) keyRead left)
    · rcases List.mem_cons.mp right with h | right
      · cases h
      · exact plainValue (decode_mem (by decide) (by decide) (by decide) valueRead right)

end GrokingClawId.Percent
