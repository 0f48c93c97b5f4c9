import GrokingClawId.Core.HttpSig

/-!
# Round trip of HTTP message signatures

The text that `sign_request` writes is read back by `parse_signature_input`: the list of
components, then the parameters one after another. The rebuilt signature base is then the signed
one, and the signatures verify.
-/

namespace GrokingClawId.Core
open Text

/-! ### Header names -/

/-- A header name that can stand in a component list. -/
structure Token (name : String) : Prop where
  nonempty : name.toList ≠ []
  ascii : ∀ c ∈ name.toList, c.toNat < 128
  plain : ∀ c ∈ name.toList, isWhitespace c = false ∧ c ≠ '"' ∧ c ≠ '(' ∧ c ≠ ')'
  not_derived : name.toList.head? ≠ some '@'

theorem lower_ascii : ∀ n < 128, let c := Char.ofNat n
    c.toLower.toNat < 128 ∧ c.toLower.toLower = c.toLower ∧ (c ≠ '@' → c.toLower ≠ '@') ∧
      (isWhitespace c = false ∧ c ≠ '"' ∧ c ≠ '(' ∧ c ≠ ')' →
        isWhitespace c.toLower = false ∧ c.toLower ≠ '"' ∧ c.toLower ≠ '(' ∧ c.toLower ≠ ')') := by
  decide

section Names
variable [Unicode] (ascii : Unicode.Ascii)
include ascii

theorem Token.toLowercase_chars {name : String} (token : Token name) :
    (Unicode.toLowercase name).toList = name.toList.map Char.toLower := by
  rw [ascii.toLowercase_ascii name token.ascii, String.toList_ofList]

theorem Token.toLowercase {name : String} (token : Token name) :
    Token (Unicode.toLowercase name) := by
  have chars := token.toLowercase_chars ascii
  have lowered : ∀ c ∈ (Unicode.toLowercase name).toList, ∃ x ∈ name.toList, x.toNat < 128 ∧
      c = x.toLower := by
    intro c member
    rw [chars] at member
    obtain ⟨x, present, rfl⟩ := List.mem_map.mp member
    exact ⟨x, present, token.ascii x present, rfl⟩
  refine ⟨?_, fun c member => ?_, fun c member => ?_, ?_⟩
  · rw [chars]
    simpa using token.nonempty
  · obtain ⟨x, _, small, rfl⟩ := lowered c member
    have fact := (lower_ascii x.toNat small).1
    rwa [Char.ofNat_toNat] at fact
  · obtain ⟨x, present, small, rfl⟩ := lowered c member
    have fact := (lower_ascii x.toNat small).2.2.2
    rw [Char.ofNat_toNat] at fact
    exact fact (token.plain x present)
  · intro first
    rw [chars, List.head?_map] at first
    obtain ⟨x, head, at_sign⟩ := Option.map_eq_some_iff.mp first
    have fact := (lower_ascii x.toNat (token.ascii x (List.mem_of_mem_head? head))).2.2.1
    rw [Char.ofNat_toNat] at fact
    refine fact (fun same => token.not_derived ?_) at_sign
    rw [head, same]

theorem Token.toLowercase_toLowercase {name : String} (token : Token name) :
    Unicode.toLowercase (Unicode.toLowercase name) = Unicode.toLowercase name := by
  rw [← String.toList_inj, (token.toLowercase ascii).toLowercase_chars ascii,
    token.toLowercase_chars ascii, List.map_map]
  apply List.map_congr_left
  intro c member
  have fact := (lower_ascii c.toNat (token.ascii c member)).2.1
  rw [Char.ofNat_toNat] at fact
  exact fact

end Names

/-! ### Components -/

namespace Component

def WellNamed : Component → Prop
  | header name => Token name
  | _ => True

section Names
variable [Unicode]

def lowered : Component → Component
  | header name => header (Unicode.toLowercase name)
  | c => c

def name : Component → String
  | method => "@method"
  | targetUri => "@target-uri"
  | authority => "@authority"
  | path => "@path"
  | query => "@query"
  | header name => Unicode.toLowercase name

theorem identifier_chars (c : Component) : c.identifier.toList = '"' :: c.name.toList ++ ['"'] := by
  cases c with
  | header name => simp [identifier, Component.name, toString]
  | _ =>
    simp only [identifier, Component.name]
    decide

theorem name_plain (ascii : Unicode.Ascii) {c : Component} (named : c.WellNamed) :
    ∀ x ∈ c.name.toList, isWhitespace x = false ∧ x ≠ '"' ∧ x ≠ '(' ∧ x ≠ ')' := by
  cases c with
  | header name => exact (Token.toLowercase ascii named).plain
  | _ =>
    simp only [Component.name]
    exact forall_of_all (by decide)

theorem identifier_plain (ascii : Unicode.Ascii) {c : Component} (named : c.WellNamed) :
    ∀ x ∈ c.identifier.toList, isWhitespace x = false ∧ x ≠ '(' ∧ x ≠ ')' := by
  intro x member
  have quote : isWhitespace '"' = false ∧ '"' ≠ '(' ∧ '"' ≠ ')' := by decide
  rw [identifier_chars] at member
  rcases List.mem_append.mp member with front | back
  · rcases List.mem_cons.mp front with rfl | inner
    · exact quote
    · have plain := name_plain ascii named x inner
      exact ⟨plain.1, plain.2.2⟩
  · rw [List.mem_singleton.mp back]
    exact quote

omit [Unicode] in
theorem parse_header {word : List Char} (first : (trimMatches (· = '"') word).head? ≠ some '@') :
    parse word = header (String.ofList (trimMatches (· = '"') word)) := by
  have other : ∀ s : String, s.toList.head? = some '@' →
      String.ofList (trimMatches (· = '"') word) ≠ s := by
    rintro s derived rfl
    rw [String.toList_ofList] at derived
    exact first derived
  unfold parse
  split
  · exact absurd ‹_› (other _ (by decide))
  · exact absurd ‹_› (other _ (by decide))
  · exact absurd ‹_› (other _ (by decide))
  · exact absurd ‹_› (other _ (by decide))
  · exact absurd ‹_› (other _ (by decide))
  · rfl

theorem parse_identifier (ascii : Unicode.Ascii) {c : Component} (named : c.WellNamed) :
    parse c.identifier.toList = c.lowered := by
  have inner : trimMatches (· = '"') c.identifier.toList = c.name.toList := by
    rw [identifier_chars]
    exact trimMatches_wrap (by decide) (trimmed_of_forall fun x member => by
      simpa using (name_plain ascii named x member).2.1)
  cases c with
  | header name =>
    have token := Token.toLowercase ascii named
    rw [parse_header (by rw [inner]; exact token.not_derived), inner]
    simp [lowered, Component.name]
  | _ =>
    rw [parse, inner]
    simp [lowered, Component.name]

theorem identifier_lowered (ascii : Unicode.Ascii) {c : Component} (named : c.WellNamed) :
    c.lowered.identifier = c.identifier := by
  cases c with
  | header name => simp [lowered, identifier, Token.toLowercase_toLowercase ascii named]
  | _ => rfl

theorem value_lowered (ascii : Unicode.Ascii) {c : Component} (named : c.WellNamed)
    (request : HttpRequest) (url : Url) : c.lowered.value request url = c.value request url := by
  cases c with
  | header name => simp [lowered, value, Token.toLowercase_toLowercase ascii named]
  | _ => rfl

end Names
end Component

/-! ### Parameters -/

namespace SignatureParams

/-- Parameters that can be told apart in the header text. -/
structure WellFormed (params : SignatureParams) : Prop where
  label_plain : '=' ∉ params.label.toList
  label_trimmed : Trimmed isWhitespace params.label.toList
  keyid_plain : ∀ c ∈ params.keyid.toList, c ≠ ';' ∧ c ≠ '"'
  nonce_plain : ∀ nonce ∈ params.nonce, ∀ c ∈ nonce.toList, c ≠ ';' ∧ c ≠ '"'

def field (key : String) (value : List Char) : List Char := key.toList ++ '=' :: value

def quoted (value : String) : List Char := '"' :: value.toList ++ ['"']

def parts (params : SignatureParams) : List (List Char) :=
  [field "keyid" (quoted params.keyid), field "alg" (quoted params.alg.asStr),
    field "created" (toString params.created).toList] ++
  (params.expires.map fun e => field "expires" (toString e).toList).toList ++
  (params.nonce.map fun n => field "nonce" (quoted n)).toList

theorem int64_chars {n : Int64} {c : Char} (member : c ∈ (toString n).toList) :
    c.isDigit = true ∨ c = '-' :=
  toString_int_chars member

theorem int64_plain {n : Int64} :
    ∀ c ∈ (toString n).toList, c ≠ ';' ∧ c ≠ '"' ∧ isWhitespace c = false := by
  intro c member
  rcases int64_chars member with digit | rfl
  · refine ⟨?_, ?_, ?_⟩
    · rintro rfl
      exact absurd digit (by decide)
    · rintro rfl
      exact absurd digit (by decide)
    · simp only [Char.isDigit, Bool.and_eq_true, decide_eq_true_eq, UInt32.le_iff_toNat_le] at digit
      have low : 48 ≤ c.toNat := digit.1
      have high : c.toNat ≤ 57 := digit.2
      simp only [isWhitespace, Bool.or_eq_false_iff, Bool.and_eq_false_iff, decide_eq_false_iff_not,
        beq_eq_false_iff_ne]
      omega
  · decide

theorem parseI64_toString (n : Int64) : parseI64 (toString n).toList = some n := by
  have parsed : parseInt Int64.minValue.toInt Int64.maxValue.toInt (toString n).toList =
      some n.toInt :=
    parseInt_toString (Int64.minValue_le_toInt n) (Int64.toInt_le n)
  rw [parseI64, parsed, Option.map_some, Int64.ofInt_toInt]

theorem withPart_field {params : SignatureParams} {key : String} {value : List Char}
    (plain : '=' ∉ key.toList) (first : ∀ c ∈ (field key value).head?, isWhitespace c = false)
    (nonempty : value ≠ []) (last : ∀ c ∈ value.getLast?, isWhitespace c = false) :
    params.withPart (field key value) = params.withField key (trimMatches (· = '"') value) := by
  have ends : ∀ c ∈ (field key value).getLast?, isWhitespace c = false := by
    rw [field, List.getLast?_append_of_ne_nil _ (List.cons_ne_nil _ _),
      List.getLast?_cons_of_ne_nil nonempty]
    exact last
  have kept : trim (field key value) = field key value := trimMatches_eq_self ⟨first, ends⟩
  have solid : (field key value).isEmpty = false := by simp [field]
  rw [withPart, kept]
  simp only [solid, Bool.false_eq_true, if_false]
  rw [field, splitOnce_append plain]
  simp

theorem trim_quoted {value : String} (unquoted : Trimmed (· = '"') value.toList) :
    trimMatches (· = '"') (quoted value) = value.toList :=
  trimMatches_wrap (by decide) unquoted

theorem quoted_last (value : String) : ∀ c ∈ (quoted value).getLast?, isWhitespace c = false := by
  intro c member
  rw [quoted, List.getLast?_append_of_ne_nil _ (List.cons_ne_nil _ _)] at member
  obtain rfl : '"' = c := by simpa using member
  decide

theorem trim_int64 (n : Int64) : trimMatches (· = '"') (toString n).toList = (toString n).toList :=
  trimMatches_eq_self (trimmed_of_forall fun c member => by simpa using (int64_plain c member).2.1)

theorem int64_ne_nil (n : Int64) : (toString n).toList ≠ [] := by
  intro empty
  have parsed := parseI64_toString n
  rw [empty] at parsed
  simp [parseI64, parseInt, parseDigits] at parsed

theorem withPart_quoted {params : SignatureParams} {key value : String} (plain : '=' ∉ key.toList)
    (first : ∀ c ∈ (field key (quoted value)).head?, isWhitespace c = false)
    (unquoted : Trimmed (· = '"') value.toList) :
    params.withPart (field key (quoted value)) = params.withField key value.toList := by
  rw [withPart_field plain first (by simp [quoted]) (quoted_last value), trim_quoted unquoted]

theorem withPart_int64 {params : SignatureParams} {key : String} {n : Int64}
    (plain : '=' ∉ key.toList)
    (first : ∀ c ∈ (field key (toString n).toList).head?, isWhitespace c = false) :
    params.withPart (field key (toString n).toList) = params.withField key (toString n).toList := by
  rw [withPart_field plain first (int64_ne_nil n)
    (fun c member => (int64_plain c (List.mem_of_getLast? member)).2.2), trim_int64]

/-! Each parameter is read back. -/

theorem withPart_keyid (params : SignatureParams) {keyid : String}
    (unquoted : Trimmed (· = '"') keyid.toList) :
    params.withPart (field "keyid" (quoted keyid)) = { params with keyid := keyid } := by
  rw [withPart_quoted (by decide) (by simp [field]; decide) unquoted]
  simp [withField]

theorem withPart_alg (params : SignatureParams) (alg : SignatureAlgorithm) :
    params.withPart (field "alg" (quoted alg.asStr)) = { params with alg := alg } := by
  have unquoted : Trimmed (· = '"') alg.asStr.toList := by
    cases alg <;> exact trimmed_of_forall (forall_of_all (by decide))
  rw [withPart_quoted (by decide) (by simp [field]; decide) unquoted]
  cases alg <;> simp [withField, SignatureAlgorithm.asStr]

theorem withPart_created (params : SignatureParams) (n : Int64) :
    params.withPart (field "created" (toString n).toList) = { params with created := n } := by
  rw [withPart_int64 (by decide) (by simp [field]; decide)]
  simp only [withField, parseI64_toString, Option.getD_some]

theorem withPart_expires (params : SignatureParams) (n : Int64) :
    params.withPart (field "expires" (toString n).toList) = { params with expires := some n } := by
  rw [withPart_int64 (by decide) (by simp [field]; decide)]
  simp only [withField, parseI64_toString, Option.getD_some]

theorem withPart_nonce (params : SignatureParams) {nonce : String}
    (unquoted : Trimmed (· = '"') nonce.toList) :
    params.withPart (field "nonce" (quoted nonce)) = { params with nonce := some nonce } := by
  rw [withPart_quoted (by decide) (by simp [field]; decide) unquoted]
  simp [withField]

theorem foldl_expires {params : SignatureParams} (unset : params.expires = none)
    (expires : Option Int64) :
    ((expires.map fun e => field "expires" (toString e).toList).toList).foldl withPart params =
      { params with expires := expires } := by
  cases expires with
  | none =>
    obtain ⟨keyid, alg, created, expires, nonce, label⟩ := params
    obtain rfl : expires = none := unset
    rfl
  | some e =>
    simp only [Option.map_some, Option.toList_some, List.foldl_cons, List.foldl_nil,
      withPart_expires]

theorem foldl_nonce {params : SignatureParams} (unset : params.nonce = none) {nonce : Option String}
    (unquoted : ∀ n, nonce = some n → Trimmed (· = '"') n.toList) :
    ((nonce.map fun n => field "nonce" (quoted n)).toList).foldl withPart params =
      { params with nonce := nonce } := by
  cases nonce with
  | none =>
    obtain ⟨keyid, alg, created, expires, nonce, label⟩ := params
    obtain rfl : nonce = none := unset
    rfl
  | some n =>
    simp only [Option.map_some, Option.toList_some, List.foldl_cons, List.foldl_nil,
      withPart_nonce _ (unquoted n rfl)]

/-- The texts in quotes can be told from what surrounds them. -/
structure Readable (params : SignatureParams) : Prop where
  keyid_plain : ';' ∉ params.keyid.toList
  keyid_unquoted : Trimmed (· = '"') params.keyid.toList
  nonce_plain : ∀ nonce ∈ params.nonce, ';' ∉ nonce.toList
  nonce_unquoted : ∀ nonce ∈ params.nonce, Trimmed (· = '"') nonce.toList

theorem WellFormed.readable {params : SignatureParams} (wellFormed : params.WellFormed) :
    params.Readable where
  keyid_plain member := (wellFormed.keyid_plain _ member).1 rfl
  keyid_unquoted := trimmed_of_forall fun c member => by simpa using (wellFormed.keyid_plain c member).2
  nonce_plain nonce given member := (wellFormed.nonce_plain nonce given _ member).1 rfl
  nonce_unquoted nonce given :=
    trimmed_of_forall fun c member => by simpa using (wellFormed.nonce_plain nonce given c member).2

theorem foldl_withPart {params : SignatureParams} (readable : params.Readable) (now : Int64) :
    params.parts.foldl withPart { SignatureParams.default now with label := params.label } =
      params := by
  simp only [parts, List.foldl_append, List.foldl_cons, List.foldl_nil,
    withPart_keyid _ readable.keyid_unquoted, withPart_alg, withPart_created]
  rw [foldl_expires rfl, foldl_nonce rfl readable.nonce_unquoted]

theorem field_free {key : String} {value : List Char} (keyPlain : ';' ∉ key.toList)
    (plain : ';' ∉ value) :
    ';' ∉ field key value := by
  simp [field, keyPlain, plain]

theorem quoted_free {value : String} (plain : ';' ∉ value.toList) : ';' ∉ quoted value := by
  simp [quoted, plain]

theorem parts_free {params : SignatureParams} (readable : params.Readable) :
    ∀ part ∈ params.parts, ';' ∉ part := by
  have ints : ∀ n : Int64, ';' ∉ (toString n).toList := fun n member => (int64_plain _ member).1 rfl
  have alg : ';' ∉ params.alg.asStr.toList := by
    cases params.alg <;> decide
  intro part member
  simp only [parts, List.mem_append, List.mem_cons, List.not_mem_nil, or_false, Option.mem_toList,
    Option.map_eq_some_iff] at member
  rcases member with ((rfl | rfl | rfl) | ⟨e, _, rfl⟩) | ⟨n, given, rfl⟩
  · exact field_free (by decide) (quoted_free readable.keyid_plain)
  · exact field_free (by decide) (quoted_free alg)
  · exact field_free (by decide) (ints _)
  · exact field_free (by decide) (ints e)
  · exact field_free (by decide) (quoted_free (readable.nonce_plain n given))

theorem parts_last (params : SignatureParams) :
    ∀ part ∈ params.parts, part ≠ [] ∧ ∀ c ∈ part.getLast?, isWhitespace c = false := by
  have ends : ∀ (key : String) {value : List Char}, value ≠ [] →
      (∀ c ∈ value.getLast?, isWhitespace c = false) →
      field key value ≠ [] ∧ ∀ c ∈ (field key value).getLast?, isWhitespace c = false := by
    intro key value nonempty last
    refine ⟨by simp [field], ?_⟩
    rw [field, List.getLast?_append_of_ne_nil _ (List.cons_ne_nil _ _),
      List.getLast?_cons_of_ne_nil nonempty]
    exact last
  have texts : ∀ s : String, quoted s ≠ [] := by simp [quoted]
  have ints : ∀ n : Int64, ∀ c ∈ (toString n).toList.getLast?, isWhitespace c = false :=
    fun n c member => (int64_plain c (List.mem_of_getLast? member)).2.2
  intro part member
  simp only [parts, List.mem_append, List.mem_cons, List.not_mem_nil, or_false, Option.mem_toList,
    Option.map_eq_some_iff] at member
  rcases member with ((rfl | rfl | rfl) | ⟨e, _, rfl⟩) | ⟨n, _, rfl⟩
  · exact ends _ (texts _) (quoted_last _)
  · exact ends _ (texts _) (quoted_last _)
  · exact ends _ (int64_ne_nil _) (ints _)
  · exact ends _ (int64_ne_nil e) (ints e)
  · exact ends _ (texts n) (quoted_last n)

end SignatureParams

/-! ### The header text -/

section RoundTrip
variable [Unicode]

def componentList (components : List Component) : List Char :=
  [' '].intercalate (components.map fun c => c.identifier.toList)

theorem signatureParams_chars (components : List Component) (params : SignatureParams) :
    (signatureParams components params).toList =
      '(' :: componentList components ++ ')' :: params.parts.flatMap (';' :: ·) := by
  obtain ⟨keyid, alg, created, expires, nonce, label⟩ := params
  have ids : (" ".intercalate (components.map Component.identifier)).toList =
      componentList components := by
    rw [String.toList_intercalate, List.map_map]
    rfl
  cases expires <;> cases nonce <;>
    simp [signatureParams, SignatureParams.parts, SignatureParams.field, SignatureParams.quoted,
      ids, toString]

omit [Unicode] in
theorem headerText_last (list : List Char) (params : SignatureParams) :
    ∀ c ∈ ('(' :: list ++ ')' :: params.parts.flatMap (';' :: ·)).getLast?, isWhitespace c = false := by
  intro c last
  rw [List.getLast?_append_of_ne_nil _ (List.cons_ne_nil _ _), List.getLast?_cons] at last
  cases final : (params.parts.flatMap (';' :: ·)).getLast? with
  | none =>
    rw [final] at last
    obtain rfl : ')' = c := by simpa using last
    decide
  | some x =>
    rw [final] at last
    obtain rfl : x = c := by simpa using last
    obtain ⟨part, listed, ends⟩ :=
      getLast_flatMap_sep (fun part listed => (params.parts_last part listed).1) final
    exact (params.parts_last part listed).2 x ends

omit [Unicode] in
theorem trim_headerText (label list : List Char) (params : SignatureParams) :
    trim (label ++ '=' :: ('(' :: list ++ ')' :: params.parts.flatMap (';' :: ·))) =
      label.dropWhile isWhitespace ++ '=' :: ('(' :: list ++ ')' :: params.parts.flatMap (';' :: ·)) := by
  have front :
      (label ++ '=' :: ('(' :: list ++ ')' :: params.parts.flatMap (';' :: ·))).dropWhile isWhitespace =
      label.dropWhile isWhitespace ++ '=' :: ('(' :: list ++ ')' :: params.parts.flatMap (';' :: ·)) := by
    rw [List.dropWhile_append]
    by_cases blank : (label.dropWhile isWhitespace).isEmpty = true
    · rw [if_pos blank, List.isEmpty_iff.mp blank, List.nil_append, List.dropWhile_cons_of_neg (by decide)]
    · rw [if_neg blank]
  rw [trim, trimMatches, front, List.rdropWhile_eq_self_iff]
  intro nonempty
  rw [Bool.not_eq_true]
  apply headerText_last list params
  rw [List.getLast_append_of_ne_nil _ (List.cons_ne_nil _ _), List.getLast_cons (by simp)]
  exact List.getLast?_eq_some_getLast _

omit [Unicode] in
/-- A header text of this shape is read as its words and its parameters. -/
theorem parseSignatureInput_text {input : String} {label : List Char} {words : List (List Char)}
    {params : SignatureParams} (text : input.toList =
      label ++ '=' :: ('(' :: [' '].intercalate words ++ ')' :: params.parts.flatMap (';' :: ·)))
    (labelPlain : '=' ∉ label)
    (solid : ∀ w ∈ words, w ≠ [] ∧ ∀ c ∈ w, isWhitespace c = false)
    (unclosed : ∀ w ∈ words, ')' ∉ w) (readable : params.Readable) (now : Int64) :
    parseSignatureInput input now = .ok (words.map Component.parse,
      { params with label := String.ofList (label.dropWhile isWhitespace) }) := by
  let list := [' '].intercalate words
  have closed : ')' ∉ list := by
    intro member
    obtain ⟨word, present, inside⟩ := mem_of_mem_intercalate (by decide) member
    exact unclosed word present inside
  have unlabelled : '=' ∉ label.dropWhile isWhitespace :=
    fun member => labelPlain ((List.dropWhile_sublist _).mem member)
  have opening : ('(' :: list ++ ')' :: params.parts.flatMap (';' :: ·)).idxOf? '(' = some 0 :=
    idxOf_append (a := []) (by simp) _
  have closing : ('(' :: list ++ ')' :: params.parts.flatMap (';' :: ·)).idxOf? ')' =
      some ('(' :: list).length :=
    idxOf_append (by simpa using closed) _
  have split : (params.parts.flatMap (';' :: ·)).splitOn ';' = [] :: params.parts := by
    rw [← intercalate_nil_cons]
    refine List.splitOn_intercalate ';' (fun part member => ?_) (List.cons_ne_nil _ _)
    rcases List.mem_cons.mp member with rfl | listed
    · exact List.not_mem_nil
    · exact params.parts_free readable part listed
  have blank : ∀ p : SignatureParams, p.withPart [] = p := fun p => rfl
  have inside : (('(' :: list ++ ')' :: params.parts.flatMap (';' :: ·)).take
      ('(' :: list).length).drop (0 + 1) = list := by
    rw [List.take_left]
    rfl
  have outside : ('(' :: list ++ ')' :: params.parts.flatMap (';' :: ·)).drop
      (('(' :: list).length + 1) = params.parts.flatMap (';' :: ·) := by
    rw [← List.drop_drop, List.drop_left]
    rfl
  have relabelled := @SignatureParams.foldl_withPart
    { params with label := String.ofList (label.dropWhile isWhitespace) }
    ⟨readable.1, readable.2, readable.3, readable.4⟩ now
  rw [parseSignatureInput, text, trim_headerText, splitOnce_append unlabelled]
  simp only [orErr_some, orFault_ok, bind, Except.bind, opening, closing, list]
  rw [if_neg (by simp), inside, outside, split, splitWhitespace_intercalate solid, List.foldl_cons,
    blank]
  exact congrArg (fun p => Except.ok (words.map Component.parse, p)) relabelled

theorem identifiers_solid (ascii : Unicode.Ascii) {components : List Component}
    (named : ∀ c ∈ components, c.WellNamed) : ∀ w ∈ components.map fun c => c.identifier.toList,
      w ≠ [] ∧ ∀ x ∈ w, isWhitespace x = false ∧ x ≠ ')' := by
  intro w member
  obtain ⟨c, present, rfl⟩ := List.mem_map.mp member
  refine ⟨by simp [Component.identifier_chars], fun x inside => ?_⟩
  have plain := Component.identifier_plain ascii (named c present) x inside
  exact ⟨plain.1, plain.2.2⟩

theorem parseSignatureInput_signatureParams (ascii : Unicode.Ascii) {components : List Component}
    {params : SignatureParams} (named : ∀ c ∈ components, c.WellNamed)
    (wellFormed : params.WellFormed) (now : Int64) :
    parseSignatureInput s!"{params.label}={signatureParams components params}" now =
      .ok (components.map Component.lowered, params) := by
  have text : (s!"{params.label}={signatureParams components params}").toList =
      params.label.toList ++
      '=' :: ('(' :: componentList components ++ ')' :: params.parts.flatMap (';' :: ·)) := by
    rw [← signatureParams_chars]
    simp [toString]
  have solid := identifiers_solid ascii named
  have words : (components.map fun c => c.identifier.toList).map Component.parse =
      components.map Component.lowered := by
    rw [List.map_map]
    apply List.map_congr_left
    intro c member
    rw [Function.comp_apply, Component.parse_identifier ascii (named c member)]
  have kept : params.label.toList.dropWhile isWhitespace = params.label.toList := by
    cases label : params.label.toList with
    | nil => rfl
    | cons x rest =>
      have first := wellFormed.label_trimmed.1 x (by rw [label]; rfl)
      rw [List.dropWhile_cons_of_neg (by simp [first])]
  rw [parseSignatureInput_text text wellFormed.label_plain
    (fun w member => ⟨(solid w member).1, fun c inside => ((solid w member).2 c inside).1⟩)
    (fun w member inside => ((solid w member).2 _ inside).2 rfl) wellFormed.readable now, words, kept,
    String.ofList_toList]

omit [Unicode] in
theorem parseSignature_base64 {label : String} (plain : '=' ∉ label.toList) (bytes : List UInt8) :
    parseSignature s!"{label}=:{base64 bytes}:" = .ok (label, bytes) := by
  have text : (s!"{label}=:{base64 bytes}:").toList =
      label.toList ++ '=' :: (':' :: (base64 bytes).toList ++ [':']) := by
    simp [toString]
  have clean : trimMatches (· = ':') (':' :: (base64 bytes).toList ++ [':']) =
      (base64 bytes).toList := by
    refine trimMatches_wrap (by decide) (trimmed_of_forall fun c member => ?_)
    simp only [decide_eq_false_iff_not]
    rintro rfl
    rw [base64, String.toList_ofList] at member
    exact Codec.not_mem_base64Encode (by decide) bytes member
  rw [parseSignature, text, splitOnce_append plain]
  simp only [orErr_some, bind, Except.bind]
  rw [clean, String.ofList_toList, unbase64_base64]
  simp

/-! ### Verification -/

theorem signatureParams_lowered (ascii : Unicode.Ascii) {components : List Component}
    (named : ∀ c ∈ components, c.WellNamed) (params : SignatureParams) :
    signatureParams (components.map Component.lowered) params =
      signatureParams components params := by
  have ids : (components.map Component.lowered).map Component.identifier =
      components.map Component.identifier := by
    rw [List.map_map]
    apply List.map_congr_left
    intro c member
    rw [Function.comp_apply, Component.identifier_lowered ascii (named c member)]
  unfold signatureParams
  rw [ids]

variable [UrlCrate]

theorem buildSignatureBase_lowered (ascii : Unicode.Ascii) {components : List Component}
    (named : ∀ c ∈ components, c.WellNamed) (request : HttpRequest) (params : SignatureParams) :
    buildSignatureBase request (components.map Component.lowered) params =
      buildSignatureBase request components params := by
  have lines : ∀ url : Url, (components.map Component.lowered).map
      (fun c => s!"{c.identifier}: {c.value request url}") =
      components.map fun c => s!"{c.identifier}: {c.value request url}" := by
    intro url
    rw [List.map_map]
    apply List.map_congr_left
    intro c member
    rw [Function.comp_apply, Component.identifier_lowered ascii (named c member),
      Component.value_lowered ascii (named c member)]
  unfold buildSignatureBase
  rw [signatureParams_lowered ascii named]
  simp only [lines]

theorem buildSignatureBase_ok {request : HttpRequest} (parses : UrlCrate.parse request.url ≠ none)
    (components : List Component) (params : SignatureParams) :
    ∃ base, buildSignatureBase request components params = .ok base := by
  obtain ⟨url, parsed⟩ := Option.ne_none_iff_exists'.mp parses
  simp [buildSignatureBase, parsed, bind, Except.bind]

/-- A signature over the base that is rebuilt from a header verifies with that header. -/
theorem verifyRequest_signed [Ed25519] (correct : Ed25519.Correct) {request : HttpRequest}
    {input base label : String} {components : List Component} {params : SignatureParams} {now : Int64}
    (parsed : parseSignatureInput input now = .ok (components, params))
    (built : buildSignatureBase request components params = .ok base) (plain : '=' ∉ label.toList)
    (seed : Bytes 32) :
    verifyRequest request input s!"{label}=:{sign seed base.toUTF8}:"
        (encodePublicKey (Ed25519.verifyingKey seed)) now =
      .ok { ed25519Valid := true, mldsa65Valid := none, keyid := params.keyid, alg := params.alg.asStr,
            created := params.created, expired := params.expired now } := by
  rw [verifyRequest, parsed, sign, parseSignature_base64 plain]
  simp only [bind, Except.bind, orFault_ok, built, encodePublicKey, unbase64_base64, orErr_some,
    tryInto_val, correct.fromBytes_verifyingKey, Bool.not_true, Bool.false_eq_true, if_false,
      correct.verify_sign]

theorem verifyRequest_base (ascii : Unicode.Ascii) [Ed25519] (correct : Ed25519.Correct)
    {request : HttpRequest} {components : List Component} {params : SignatureParams} {base : String}
    (named : ∀ c ∈ components, c.WellNamed) (wellFormed : params.WellFormed)
    (built : buildSignatureBase request components params = .ok base) (seed : Bytes 32)
    (now : Int64) :
    verifyRequest request s!"{params.label}={signatureParams components params}"
        s!"{params.label}=:{sign seed base.toUTF8}:" (encodePublicKey (Ed25519.verifyingKey seed)) now =
      .ok { ed25519Valid := true, mldsa65Valid := none, keyid := params.keyid, alg := params.alg.asStr,
            created := params.created, expired := params.expired now } := by
  have rebuilt : buildSignatureBase request (components.map Component.lowered) params =
      .ok base := by
    rw [buildSignatureBase_lowered ascii named, built]
  exact verifyRequest_signed correct (parseSignatureInput_signatureParams ascii named wellFormed now) rebuilt
    wellFormed.label_plain seed

omit [UrlCrate] [Unicode] in
theorem parseSignature_pq {label : String} (plain : '=' ∉ label.toList) (bytes : List UInt8) :
    parseSignature s!"{label}-pq=:{base64 bytes}:" = .ok (s!"{label}-pq", bytes) := by
  obtain ⟨pqLabel, labelled⟩ : ∃ pqLabel, pqLabel = s!"{label}-pq" := ⟨_, rfl⟩
  have pqPlain : '=' ∉ pqLabel.toList := by
    rw [labelled]
    simp [toString, plain]
  have text : s!"{label}-pq=:{base64 bytes}:" = s!"{pqLabel}=:{base64 bytes}:" := by
    rw [labelled, ← String.toList_inj]
    simp [toString]
  rw [text, ← labelled]
  exact parseSignature_base64 pqPlain bytes

theorem verifyRequestHybrid_base (ascii : Unicode.Ascii) [Ed25519] [MlDsa65]
    (correct : Ed25519.Correct) {request : HttpRequest} {components : List Component}
    {params : SignatureParams} {base pqPublicKey : String} {bytes : List UInt8}
    (named : ∀ c ∈ components, c.WellNamed) (wellFormed : params.WellFormed)
    (built : buildSignatureBase request components params = .ok base) (seed : Bytes 32)
    (pqVerified : mldsaVerify pqPublicKey base.toUTF8 (base64 bytes) = .ok true) (now : Int64) :
    verifyRequestHybrid request s!"{params.label}={signatureParams components params}"
        s!"{params.label}=:{sign seed base.toUTF8}:" s!"{params.label}-pq=:{base64 bytes}:"
        (encodePublicKey (Ed25519.verifyingKey seed)) pqPublicKey now =
      .ok { ed25519Valid := true, mldsa65Valid := some true, keyid := params.keyid,
            alg := "ed25519+ml-dsa-65",
            created := params.created, expired := params.expired now } := by
  have rebuilt : buildSignatureBase request (components.map Component.lowered) params =
      .ok base := by
    rw [buildSignatureBase_lowered ascii named, built]
  have parsed := parseSignatureInput_signatureParams ascii named wellFormed now
  have verified := verifyRequest_base ascii correct named wellFormed built seed now
  simp only [verifyRequestHybrid, verified, parsed, rebuilt, parseSignature_pq wellFormed.label_plain,
    pqVerified, orFault_ok, bind, Except.bind]

/-- What is signed is read back and verifies, with one signature and with two. -/
theorem signRequest_verifyRequest [Ed25519] [MlDsa65] (ascii : Unicode.Ascii)
    (correct : Ed25519.Correct) (pqCorrect : MlDsa65.Correct) {request : HttpRequest}
    {components : List Component} {params : SignatureParams}
    (parses : UrlCrate.parse request.url ≠ none) (named : ∀ c ∈ components, c.WellNamed)
    (wellFormed : params.WellFormed) (seed : Bytes 32) (now : Int64) :
    (∃ signed base result, signRequest request components params seed = .ok signed ∧
      signed.request = request ∧
      parseSignatureInput signed.signatureInput now =
        .ok (components.map Component.lowered, params) ∧
      buildSignatureBase request components params = .ok base ∧
      buildSignatureBase request (components.map Component.lowered) params = .ok base ∧
      verifyRequest signed.request signed.signatureInput signed.signature
        (encodePublicKey (Ed25519.verifyingKey seed)) now = .ok result ∧
      result.ed25519Valid = true) ∧
    ∀ (rng rng' : Nat) (pair : MlDsaKeyPair), generateMldsaKeypair rng = .ok pair →
      ∃ signed pqSignature base result,
        signRequestHybrid request components params seed pair.secretKeyBytes rng' = .ok signed ∧
        signed.request = request ∧ signed.pqSignature = some pqSignature ∧
        parseSignatureInput signed.signatureInput now =
          .ok (components.map Component.lowered, params) ∧
        buildSignatureBase request components params = .ok base ∧
        buildSignatureBase request (components.map Component.lowered) params = .ok base ∧
        verifyRequestHybrid signed.request signed.signatureInput signed.signature pqSignature
          (encodePublicKey (Ed25519.verifyingKey seed)) (encodeMldsaPublicKey pair.publicKeyBytes) now =
            .ok result ∧
        result.ed25519Valid = true ∧ result.mldsa65Valid = some true := by
  obtain ⟨base, built⟩ := buildSignatureBase_ok parses components params
  have rebuilt : buildSignatureBase request (components.map Component.lowered) params =
      .ok base := by
    rw [buildSignatureBase_lowered ascii named, built]
  have parsed := parseSignatureInput_signatureParams ascii named wellFormed now
  have verified := verifyRequest_base ascii correct named wellFormed built seed now
  constructor
  · refine ⟨{ request := request, signatureInput := s!"{params.label}={signatureParams components params}",
              signature := s!"{params.label}=:{sign seed base.toUTF8}:", pqSignature := none },
      base, _, ?_, rfl, parsed, built, rebuilt, verified, rfl⟩
    simp only [signRequest, built, bind, Except.bind]
  · intro rng rng' pair generated
    obtain ⟨bytes, pqSigned, pqVerified⟩ := mldsaVerify_sign pqCorrect generated base.toUTF8 rng'
    refine ⟨{ request := request, signatureInput := s!"{params.label}={signatureParams components params}",
              signature := s!"{params.label}=:{sign seed base.toUTF8}:",
              pqSignature := some s!"{params.label}-pq=:{base64 bytes}:" },
      s!"{params.label}-pq=:{base64 bytes}:", base,
      { ed25519Valid := true, mldsa65Valid := some true, keyid := params.keyid, alg := "ed25519+ml-dsa-65",
        created := params.created, expired := params.expired now },
      ?_, rfl, rfl, parsed, built, rebuilt, ?_, rfl, rfl⟩
    · simp only [signRequestHybrid, built, pqSigned, bind, Except.bind]
    · exact verifyRequestHybrid_base ascii correct named wellFormed built seed pqVerified now

end RoundTrip

section
open scoped StandIn

/-- A derived component and a header, a negative time, and `=` and `)` inside the nonce. -/
theorem signRequest_verifyRequest_quoted :
    let request : HttpRequest :=
      { method := "get", url := "http://a.example/x", headers := [("Date", "today")], body := none }
    let components := [Component.path, Component.header "Date"]
    let params : SignatureParams :=
      { keyid := "key=1", alg := .hybrid, created := -5, expires := some 7, nonce := some "a=)",
        label := "sig1" }
    (∃ signed result, signRequest request components params StandIn.seed = .ok signed ∧
      parseSignatureInput signed.signatureInput 6 = .ok ([.path, .header "date"], params) ∧
      verifyRequest signed.request signed.signatureInput signed.signature
        (encodePublicKey (Ed25519.verifyingKey StandIn.seed)) 6 = .ok result ∧ result.ed25519Valid = true) ∧
    ∃ (signed : SignedRequest) (pair : MlDsaKeyPair) (pqSignature : String) (result : VerificationResult),
      signRequestHybrid request components params StandIn.seed pair.secretKeyBytes 0 = .ok signed ∧
      verifyRequestHybrid signed.request signed.signatureInput signed.signature pqSignature
        (encodePublicKey (Ed25519.verifyingKey StandIn.seed)) (encodeMldsaPublicKey pair.publicKeyBytes) 6 =
          .ok result ∧
      result.mldsa65Valid = some true := by
  intro request components params
  have parses : UrlCrate.parse request.url ≠ none := by decide
  have named : ∀ c ∈ components, c.WellNamed := by
    intro c member
    rcases List.mem_cons.mp member with rfl | rest
    · trivial
    · rw [List.mem_singleton.mp rest]
      exact ⟨by decide, forall_of_all (by decide), forall_of_all (by decide), by decide⟩
  have wellFormed : params.WellFormed := by
    refine ⟨by decide, trimmed_of_forall (forall_of_all (by decide)), forall_of_all (by decide), ?_⟩
    intro nonce given
    obtain rfl : "a=)" = nonce := by simpa [params] using given
    exact forall_of_all (by decide)
  obtain ⟨single, hybrid⟩ := signRequest_verifyRequest StandIn.unicode_ascii StandIn.ed25519_correct
    StandIn.mlDsa65_correct parses named wellFormed StandIn.seed 6
  constructor
  · obtain ⟨signed, _, result, made, _, parsed, _, _, verified, valid⟩ := single
    have lower : components.map Component.lowered = [.path, .header "date"] := by decide
    exact ⟨signed, result, made, lower ▸ parsed, verified, valid⟩
  · obtain ⟨pair, generated⟩ := generateMldsaKeypair_ok StandIn.mlDsa65_correct 0
    obtain ⟨signed, pqSignature, _, result, made, _, _, _, _, _, verified, _, valid⟩ :=
      hybrid 0 0 pair generated
    exact ⟨signed, pair, pqSignature, result, made, verified, valid⟩

end
end GrokingClawId.Core
