import GrokingClawId.Core.HttpSigRoundTrip

/-!
# The text of `Signature-Input`

`verify_request` verifies the parameters as it writes them itself, not as they came. Its text is the
one that was received exactly for headers in the form that `sign_request` writes; for these the
signature determines the text.
-/

namespace GrokingClawId.Core
open Text

/-- The text of a header after its label. -/
def afterLabel (input : String) : Option (List Char) :=
  (splitOnce '=' input.toList).map Prod.snd

section Form
variable [Unicode]

/-- A word of the component list: a name in lower case and in quotes. -/
structure QuotedName (word : List Char) : Prop where
  solid : ∀ c ∈ word, isWhitespace c = false
  unclosed : ')' ∉ word
  lower : word =
    '"' :: (Unicode.toLowercase (String.ofList (trimMatches (· = '"') word))).toList ++ ['"']

/-- The names with one blank between them, then `keyid`, `alg` and `created`, then `expires` and
`nonce` where they are given, and nothing else. -/
def Canonical (text : List Char) : Prop :=
  ∃ (words : List (List Char)) (params : SignatureParams),
    text = '(' :: [' '].intercalate words ++ ')' :: params.parts.flatMap (';' :: ·) ∧
      (∀ w ∈ words, QuotedName w) ∧ params.Readable

/-! ### What is written again -/

theorem identifier_parse (ascii : Unicode.Ascii) (word : List Char) :
    (Component.parse word).identifier.toList =
      '"' :: (Unicode.toLowercase (String.ofList (trimMatches (· = '"') word))).toList ++ ['"'] := by
  have derived : ∀ name : String, (∀ c ∈ name.toList, c.toNat < 128 ∧ c.toLower = c) →
      (Unicode.toLowercase name).toList = name.toList := by
    intro name plain
    rw [ascii.toLowercase_ascii name (fun c member => (plain c member).1), String.toList_ofList]
    exact (List.map_congr_left fun c member => (plain c member).2).trans (List.map_id _)
  by_cases at_sign : (trimMatches (· = '"') word).head? = some '@'
  · unfold Component.parse
    split
    · rw [‹String.ofList _ = "@method"›, derived _ (forall_of_all (by decide))]
      simp only [Component.identifier]
      decide
    · rw [‹String.ofList _ = "@target-uri"›, derived _ (forall_of_all (by decide))]
      simp only [Component.identifier]
      decide
    · rw [‹String.ofList _ = "@authority"›, derived _ (forall_of_all (by decide))]
      simp only [Component.identifier]
      decide
    · rw [‹String.ofList _ = "@path"›, derived _ (forall_of_all (by decide))]
      simp only [Component.identifier]
      decide
    · rw [‹String.ofList _ = "@query"›, derived _ (forall_of_all (by decide))]
      simp only [Component.identifier]
      decide
    · simp [Component.identifier, toString]
  · rw [Component.parse_header at_sign]
    simp [Component.identifier, toString]

theorem QuotedName.nonempty {word : List Char} (quoted : QuotedName word) : word ≠ [] := by
  rw [quoted.lower]
  exact List.cons_ne_nil _ _

theorem Canonical.written (ascii : Unicode.Ascii) {input : String} {text : List Char}
    (after : afterLabel input = some text) (canonical : Canonical text) (now : Int64) :
    ∃ components params, parseSignatureInput input now = .ok (components, params) ∧
      (signatureParams components params).toList = text := by
  obtain ⟨words, params, rfl, quoted, readable⟩ := canonical
  obtain ⟨⟨label, rest⟩, cut, same⟩ := Option.map_eq_some_iff.mp after
  obtain rfl : rest = _ := same
  obtain ⟨plain, whole⟩ := splitOnce_eq_some cut
  have read := parseSignatureInput_text whole plain
    (fun w member => ⟨(quoted w member).nonempty, (quoted w member).solid⟩)
    (fun w member => (quoted w member).unclosed) readable now
  refine ⟨_, _, read, ?_⟩
  have names : (words.map Component.parse).map (fun c => c.identifier.toList) = words := by
    rw [List.map_map]
    refine (List.map_congr_left fun w member => ?_).trans (List.map_id _)
    rw [Function.comp_apply, identifier_parse ascii, ← (quoted w member).lower]
    rfl
  rw [signatureParams_chars, componentList, names]
  rfl

/-! ### What has come in -/

omit [Unicode] in
/-- What a part of the header puts between quotes can be told from what surrounds it. -/
theorem withPart_readable {params : SignatureParams} (readable : params.Readable)
    {part : List Char} (plain : ';' ∉ part) : (params.withPart part).Readable := by
  have kept : ∀ c ∈ trim part, c ∈ part := fun c member =>
    (List.dropWhile_sublist _).mem ((List.rdropWhile_prefix _ _).subset member)
  unfold SignatureParams.withPart
  by_cases empty : (trim part).isEmpty = true
  · rw [if_pos empty]
    exact readable
  · rw [if_neg empty]
    cases cut : splitOnce '=' (trim part) with
    | none => exact readable
    | some pair =>
      obtain ⟨key, value⟩ := pair
      have whole := (splitOnce_eq_some cut).2
      have free : ';' ∉ trimMatches (· = '"') value := by
        intro member
        apply plain
        apply kept
        rw [whole]
        exact List.mem_append_right _ (List.mem_cons_of_mem _
          ((List.dropWhile_sublist _).mem ((List.rdropWhile_prefix _ _).subset member)))
      have unquoted := trimMatches_trimmed (· = '"') value
      simp only [SignatureParams.withField]
      split
      · exact ⟨by rwa [String.toList_ofList], by rwa [String.toList_ofList], readable.3, readable.4⟩
      · split <;> exact ⟨readable.1, readable.2, readable.3, readable.4⟩
      · exact ⟨readable.1, readable.2, readable.3, readable.4⟩
      · exact ⟨readable.1, readable.2, readable.3, readable.4⟩
      · refine ⟨readable.1, readable.2, fun nonce given => ?_, fun nonce given => ?_⟩
        · obtain rfl := Option.some.inj given
          rwa [String.toList_ofList]
        · obtain rfl := Option.some.inj given
          rwa [String.toList_ofList]
      · exact readable

omit [Unicode] in
theorem foldl_readable {parts : List (List Char)} (plain : ∀ part ∈ parts, ';' ∉ part)
    {params : SignatureParams} (readable : params.Readable) :
    (parts.foldl SignatureParams.withPart params).Readable := by
  induction parts generalizing params with
  | nil => exact readable
  | cons part parts ih =>
    exact ih (fun p member => plain p (List.mem_cons_of_mem _ member))
      (withPart_readable readable (plain part List.mem_cons_self))

omit [Unicode] in
theorem default_readable (now : Int64) (label : String) :
    ({ SignatureParams.default now with label := label } : SignatureParams).Readable where
  keyid_plain := List.not_mem_nil
  keyid_unquoted := trimmed_of_forall fun _ member => absurd member List.not_mem_nil
  nonce_plain _ given := by cases given
  nonce_unquoted _ given := by cases given

omit [Unicode] in
/-- A header that is read has its words before the first closing parenthesis, and parameters that
are told apart by semicolons. -/
theorem parseSignatureInput_ok {input : String} {now : Int64} {components : List Component}
    {params : SignatureParams} (read : parseSignatureInput input now = .ok (components, params))
    {label rest : List Char} (cut : splitOnce '=' (trim input.toList) = some (label, rest)) :
    ∃ start stop, rest.idxOf? '(' = some start ∧ rest.idxOf? ')' = some stop ∧
      components = (splitWhitespace ((rest.take stop).drop (start + 1))).map Component.parse ∧
      params.Readable := by
  obtain ⟨_, labelled, read⟩ := bind_ok read
  rw [cut] at labelled
  obtain rfl := Except.ok.inj labelled
  obtain ⟨start, opened, read⟩ := bind_ok read
  obtain ⟨stop, closed, read⟩ := bind_ok read
  refine ⟨start, stop, orErr_ok (orFault_eq_ok opened), orErr_ok (orFault_eq_ok closed), ?_⟩
  by_cases reversed : stop < start + 1
  · simp only [reversed, if_true] at read
    cases read
  · simp only [reversed, if_false] at read
    obtain ⟨rfl, rfl⟩ := Prod.mk.inj (Except.ok.inj read)
    refine ⟨rfl, foldl_readable (fun part member present => ?_) ?_⟩
    · have differs := (splitOnP_plain part member ';' present).1
      exact absurd differs (by decide)
    · exact default_readable now (String.ofList label)

/-- A header that is written again as it came is in the form. -/
theorem Canonical.of_written (lowercasing : Unicode.Lowercasing) (ascii : Unicode.Ascii)
    {input : String} {now : Int64} {components : List Component} {params : SignatureParams}
    (read : parseSignatureInput input now = .ok (components, params))
    (after : afterLabel input = some (signatureParams components params).toList) :
    Canonical (signatureParams components params).toList := by
  obtain ⟨⟨label, rest⟩, cut, same⟩ := Option.map_eq_some_iff.mp after
  obtain rfl : rest = _ := same
  obtain ⟨plain, whole⟩ := splitOnce_eq_some cut
  rw [signatureParams_chars] at whole ⊢
  have unlabelled : '=' ∉ label.dropWhile isWhitespace :=
    fun member => plain ((List.dropWhile_sublist _).mem member)
  have trimmed : splitOnce '=' (trim input.toList) = some (label.dropWhile isWhitespace,
      '(' :: componentList components ++ ')' :: params.parts.flatMap (';' :: ·)) := by
    rw [whole, trim_headerText, splitOnce_append unlabelled]
  obtain ⟨start, stop, opened, closed, names, readable⟩ := parseSignatureInput_ok read trimmed
  obtain rfl : 0 = start := Option.some.inj ((idxOf_append (a := []) (by simp) _).symm.trans opened)
  let inner := (('(' :: componentList components ++ ')' :: params.parts.flatMap (';' :: ·)).take stop).drop 1
  have words : ∀ w ∈ splitWhitespace inner, (∀ c ∈ w, isWhitespace c = false) ∧ ')' ∉ w := by
    intro w member
    refine ⟨fun c inside => ((splitWhitespace_solid w member).2 c inside).1, fun inside => ?_⟩
    exact not_mem_take_idxOf closed
      (List.mem_of_mem_drop ((splitWhitespace_solid w member).2 _ inside).2)
  -- No name has gained a blank or a parenthesis, so the list is read again as it was written.
  have identifiers : components.map (fun c => c.identifier.toList) =
      (splitWhitespace inner).map fun w => (Component.parse w).identifier.toList := by
    rw [names, List.map_map]
    rfl
  have solid : ∀ w ∈ splitWhitespace inner, ∀ c ∈ (Component.parse w).identifier.toList,
      isWhitespace c = false ∧ c ≠ ')' := by
    intro w member c inside
    by_contra foul
    have bad : isWhitespace c = true ∨ c = ')' := by
      by_cases blank : isWhitespace c = true
      · exact .inl blank
      · exact .inr (not_not.mp fun other => foul ⟨Bool.eq_false_iff.mpr blank, other⟩)
    rw [identifier_parse ascii] at inside
    have quote : ¬ (isWhitespace '"' = true ∨ '"' = ')') := by decide
    have deep : c ∈ (Unicode.toLowercase (String.ofList (trimMatches (· = '"') w))).toList := by
      rcases List.mem_append.mp inside with front | back
      · rcases List.mem_cons.mp front with rfl | deep
        · exact absurd bad quote
        · exact deep
      · rw [List.mem_singleton.mp back] at bad
        exact absurd bad quote
    have old := lowercasing.keeps_solid _ c deep bad
    rw [String.toList_ofList] at old
    have member' : c ∈ w :=
      (List.dropWhile_sublist _).mem ((List.rdropWhile_prefix _ _).subset old)
    rcases bad with blank | closing
    · rw [(words w member).1 c member'] at blank
      cases blank
    · exact (words w member).2 (closing ▸ member')
  have free : ')' ∉ componentList components := by
    intro member
    rw [componentList, identifiers] at member
    obtain ⟨id, listed, inside⟩ := mem_of_mem_intercalate (by decide) member
    obtain ⟨w, present, rfl⟩ := List.mem_map.mp listed
    exact (solid w present _ inside).2 rfl
  have length : ('(' :: componentList components).length = stop :=
    Option.some.inj ((idxOf_append (by simpa using free) _).symm.trans closed)
  have whole' : inner = componentList components := by
    show (('(' :: componentList components ++ ')' :: params.parts.flatMap (';' :: ·)).take stop).drop 1 = _
    rw [← length, List.take_left]
    rfl
  have again : splitWhitespace inner = (splitWhitespace inner).map fun w =>
      (Component.parse w).identifier.toList := by
    conv_lhs => rw [whole', componentList, identifiers]
    refine splitWhitespace_intercalate fun id member => ?_
    obtain ⟨w, present, rfl⟩ := List.mem_map.mp member
    refine ⟨?_, fun c inside => (solid w present c inside).1⟩
    rw [identifier_parse ascii]
    exact List.cons_ne_nil _ _
  have fixed : ∀ w ∈ splitWhitespace inner, (Component.parse w).identifier.toList = w :=
    List.map_inj_left.mp (again.symm.trans (List.map_id _).symm)
  refine ⟨splitWhitespace inner, params, ?_, fun w member =>
    ⟨(words w member).1, (words w member).2, ?_⟩, readable⟩
  · rw [componentList, identifiers, ← again]
  · rw [← identifier_parse ascii, fixed w member]

/-- The headers of `sign_request` are in the form. -/
theorem canonical_signatureParams (ascii : Unicode.Ascii) {components : List Component}
    {params : SignatureParams} (named : ∀ c ∈ components, c.WellNamed)
    (wellFormed : params.WellFormed) : Canonical (signatureParams components params).toList := by
  refine ⟨components.map fun c : Component => c.identifier.toList, params,
    signatureParams_chars components params, fun w member => ?_, wellFormed.readable⟩
  have solid := (identifiers_solid ascii named w member).2
  obtain ⟨c, present, rfl⟩ := List.mem_map.mp member
  have again := identifier_parse ascii c.identifier.toList
  rw [Component.parse_identifier ascii (named c present),
    Component.identifier_lowered ascii (named c present)] at again
  exact ⟨fun x inside => (solid x inside).1, fun inside => (solid _ inside).2 rfl, again⟩

end Form

/-! ### What the signature determines -/

/-- Text that ends in fields after a separator is split before each of them. -/
theorem splitOn_flatMap_sep {sep : Char} {fields : List (List Char)} (free : ∀ x ∈ fields, sep ∉ x)
    (front : List Char) :
    (front ++ fields.flatMap (sep :: ·)).splitOn sep = front.splitOn sep ++ fields := by
  induction fields generalizing front with
  | nil => simp
  | cons x fields ih =>
    have rest := ih (fun y member => free y (List.mem_cons_of_mem _ member)) x
    rw [List.flatMap_cons, List.cons_append, List.splitOn_append_cons_self, rest,
      List.splitOn_eq_singleton (free x List.mem_cons_self), List.singleton_append]

theorem list_starts_quoted [Unicode] {w : List Char} {words : List (List Char)}
    (quoted : QuotedName w) (back : List Char) :
    [' '].intercalate (w :: words) ≠ ' ' :: back := by
  intro same
  rw [quoted.lower] at same
  cases words with
  | nil =>
    rw [List.intercalate_singleton] at same
    exact absurd (List.cons.inj same).1 (by decide)
  | cons v words =>
    rw [List.intercalate_cons_cons] at same
    exact absurd (List.cons.inj same).1 (by decide)

/-- Where a blank stands in a component list, a quote stands before it. -/
theorem quote_before_blank [Unicode] {words : List (List Char)} (quoted : ∀ w ∈ words, QuotedName w)
    {front back : List Char} {c : Char} (list : [' '].intercalate words = front ++ c :: ' ' :: back) :
    c = '"' := by
  induction words generalizing front with
  | nil =>
    have length := congrArg List.length list
    simp [List.intercalate] at length
  | cons w words ih =>
    have here := quoted w List.mem_cons_self
    cases words with
    | nil =>
      rw [List.intercalate_singleton] at list
      have inside : ' ' ∈ w := by
        rw [list]
        simp
      exact absurd (here.solid _ inside) (by decide)
    | cons v words =>
      have next := quoted v (List.mem_cons_of_mem _ List.mem_cons_self)
      rw [List.intercalate_cons_cons, List.append_assoc, List.singleton_append] at list
      rcases List.append_eq_append_iff.mp list with ⟨gap, _, rest⟩ | ⟨tail, word, rest⟩
      · cases gap with
        | nil => exact absurd (List.cons.inj rest).2 (list_starts_quoted next _)
        | cons y gap =>
          exact ih (fun u member => quoted u (List.mem_cons_of_mem _ member)) (List.cons.inj rest).2
      · cases tail with
        | nil => exact absurd (List.cons.inj rest).2.symm (list_starts_quoted next _)
        | cons y tail =>
          obtain ⟨rfl, behind⟩ := List.cons.inj rest
          cases tail with
          | nil =>
            have last := congrArg List.getLast? (word.symm.trans here.lower)
            rw [List.getLast?_concat, List.getLast?_concat] at last
            exact Option.some.inj last
          | cons z tail =>
            obtain ⟨rfl, _⟩ := List.cons.inj behind
            have inside : ' ' ∈ w := by
              rw [word]
              simp
            exact absurd (here.solid _ inside) (by decide)

def paramsLabel : List Char := "\"@signature-params\": ".toList

theorem keyid_first (params params' : SignatureParams) :
    SignatureParams.field "keyid" (SignatureParams.quoted params.keyid) ∉ params'.parts.tail := by
  have other : ∀ part ∈ params'.parts.tail, part.head? ≠ some 'k' := by
    intro part member
    simp only [SignatureParams.parts, List.cons_append, List.tail_cons, List.nil_append, List.mem_append,
      List.mem_cons, Option.mem_toList, Option.map_eq_some_iff] at member
    rcases member with rfl | rfl | ⟨e, _, rfl⟩ | ⟨n, _, rfl⟩ <;> (simp [SignatureParams.field])
  exact fun member => other _ member rfl

theorem close_not_mem_list [Unicode] {words : List (List Char)} (quoted : ∀ w ∈ words, QuotedName w) :
    ')' ∉ '(' :: [' '].intercalate words := by
  rw [List.mem_cons, not_or]
  refine ⟨by decide, fun member => ?_⟩
  obtain ⟨w, present, inside⟩ := mem_of_mem_intercalate (by decide) member
  exact (quoted w present).unclosed inside

/-- No header text in the form has the last line of a signature base inside it. -/
theorem Canonical.not_inside [Unicode] {text outer : List Char} (canonical : Canonical text)
    (enclosing : Canonical outer) {before : List Char} (ends : outer = before ++ paramsLabel ++ text) :
    False := by
  obtain ⟨words, params, rfl, quoted, readable⟩ := canonical
  obtain ⟨words', params', rfl, quoted', readable'⟩ := enclosing
  let front := before ++ paramsLabel ++ '(' :: [' '].intercalate words
  have whole : '(' :: [' '].intercalate words' ++ ')' :: params'.parts.flatMap (';' :: ·) =
      front ++ ')' :: params.parts.flatMap (';' :: ·) := by
    rw [ends, List.append_assoc _ _ (')' :: _)]
  have cut := splitOnce_append (close_not_mem_list quoted') (params'.parts.flatMap (';' :: ·))
  rw [whole] at cut
  by_cases closed : ')' ∈ front
  · -- The line would stand among the parameters, and `keyid` would come a second time.
    obtain ⟨first, second, shape, free⟩ := List.eq_append_cons_of_mem closed
    rw [shape, List.append_assoc, List.cons_append, splitOnce_append free] at cut
    have rest := (Prod.mk.inj (Option.some.inj cut)).2
    have fields := splitOn_flatMap_sep (params'.parts_free readable') []
    have fields' := splitOn_flatMap_sep (params.parts_free readable) (second ++ [')'])
    rw [List.nil_append, ← rest, List.append_cons, fields', List.splitOn_nil] at fields
    have joined : [';'].intercalate ((second ++ [')']).splitOn ';') = second ++ [')'] :=
      List.intercalate_splitOn ';'
    cases pieces : (second ++ [')']).splitOn ';' with
    | nil => exact List.splitOn_ne_nil _ _ pieces
    | cons piece pieces' =>
      rw [pieces, List.cons_append, List.singleton_append] at fields
      obtain ⟨rfl, tail⟩ := List.cons.inj fields
      cases pieces' with
      | nil =>
        rw [pieces, List.intercalate_singleton] at joined
        exact List.append_ne_nil_of_right_ne_nil _ (List.cons_ne_nil _ _) joined.symm
      | cons next later =>
        apply keyid_first params params'
        rw [← tail]
        exact List.mem_append_right _ List.mem_cons_self
  · -- The line would stand in the component list, with a colon before a blank.
    rw [splitOnce_append closed] at cut
    have list := (Prod.mk.inj (Option.some.inj cut)).1
    have label : paramsLabel = "\"@signature-params\"".toList ++ [':', ' '] := by decide
    cases before with
    | nil => exact absurd (List.cons.inj list).1 (by decide)
    | cons c before =>
      have inner := (List.cons.inj list).2
      have blank : [' '].intercalate words' =
          before ++ "\"@signature-params\"".toList ++ ':' :: ' ' :: '(' :: [' '].intercalate words := by
        rw [← inner, label]
        simp
      exact absurd (quote_before_blank quoted' blank) (by decide)

theorem Canonical.starts [Unicode] {text : List Char} (canonical : Canonical text) :
    text.head? = some '(' := by
  obtain ⟨words, params, rfl, _⟩ := canonical
  rfl

theorem Canonical.determined_of_longer [Unicode] {text text' : List Char} (canonical : Canonical text)
    (canonical' : Canonical text') {before before' more : List Char}
    (same : before' ++ paramsLabel = before ++ paramsLabel ++ more) (longer : text = more ++ text') :
    text = text' := by
  cases more with
  | nil => exact longer
  | cons c more =>
    have starts := canonical.starts
    rw [longer] at starts
    obtain rfl := Option.some.inj starts
    rcases List.append_eq_append_iff.mp same with ⟨gap, _, label⟩ | ⟨gap, _, inside⟩
    · have member : '(' ∈ paramsLabel := by
        rw [label]
        simp
      exact absurd member (by decide)
    · have ends : '(' :: more ++ text' = gap ++ paramsLabel ++ text' := by rw [inside]
      exact (canonical'.not_inside canonical (longer.trans ends)).elim

/-- The text of the parameters is determined by the text that ends in it. -/
theorem Canonical.determined [Unicode] {text text' : List Char} (canonical : Canonical text)
    (canonical' : Canonical text') {before before' : List Char}
    (same : before ++ paramsLabel ++ text = before' ++ paramsLabel ++ text') : text = text' := by
  rcases List.append_eq_append_iff.mp same with ⟨more, front, longer⟩ | ⟨more, front, longer⟩
  · exact canonical.determined_of_longer canonical' front longer
  · exact (canonical'.determined_of_longer canonical front longer).symm

/-! ### Verification -/

section Verify
variable [UrlCrate] [Unicode]

/-- The text over which `verify_request` verifies a signature. -/
def verifiedBase (request : HttpRequest) (input : String) (now : Int64) : Outcome String := do
  let (components, params) ← parseSignatureInput input now
  orFault (buildSignatureBase request components params)

theorem buildSignatureBase_ends {request : HttpRequest} {components : List Component}
    {params : SignatureParams} {base : String}
    (built : buildSignatureBase request components params = .ok base) :
    ∃ before, base.toList = before ++ paramsLabel ++ (signatureParams components params).toList := by
  obtain ⟨url, _, built⟩ := bind_ok built
  have last : (s!"\"@signature-params\": {signatureParams components params}").toList =
      paramsLabel ++ (signatureParams components params).toList := by
    show _ = "\"@signature-params\": ".toList ++ _
    exact String.toList_append
  rw [← Except.ok.inj built, String.toList_intercalate, List.map_append, List.map_singleton, last]
  obtain ⟨front, ends⟩ := intercalate_ends "\n".toList _
    (paramsLabel ++ (signatureParams components params).toList)
  exact ⟨front, ends.trans (List.append_assoc _ _ _).symm⟩

variable [Ed25519]

def Valid (request : HttpRequest) (input signature key : String) (now : Int64) : Prop :=
  ∃ result, verifyRequest request input signature key now = .ok result ∧ result.ed25519Valid = true

theorem Valid.verified {request : HttpRequest} {input signature key : String} {now : Int64}
    (valid : Valid request input signature key now) :
    ∃ components params base label bytes, parseSignatureInput input now = .ok (components, params) ∧
      buildSignatureBase request components params = .ok base ∧
      parseSignature signature = .ok (label, bytes) ∧ verify key base.toUTF8 (base64 bytes) = .ok true := by
  obtain ⟨result, ran, valid⟩ := valid
  obtain ⟨components, params, label, bytes, base, read, decoded, built, verified, _⟩ := verifyRequest_ok ran
  exact ⟨components, params, base, label, bytes, read, built, decoded, valid ▸ verified⟩

/-- Whatever is verified with a header carries the text of the header on its last line. -/
def VerifiedAsReceived (request : HttpRequest) (input : String) (now : Int64) : Prop :=
  ∀ signature key, Valid request input signature key now → ∃ components params,
    parseSignatureInput input now = .ok (components, params) ∧
      afterLabel input = some (signatureParams components params).toList

theorem verifiedAsReceived_iff (ascii : Unicode.Ascii) (lowercasing : Unicode.Lowercasing)
    (correct : Ed25519.Correct) {request : HttpRequest} (parses : UrlCrate.parse request.url ≠ none)
    (input : String) (now : Int64) :
    VerifiedAsReceived request input now ↔ (∀ read, parseSignatureInput input now ≠ .ok read) ∨
      ∃ text, afterLabel input = some text ∧ Canonical text := by
  constructor
  · intro faithful
    by_cases unread : ∀ read, parseSignatureInput input now ≠ .ok read
    · exact .inl unread
    · right
      obtain ⟨⟨components, params⟩, read⟩ := not_forall_not.mp unread
      obtain ⟨base, built⟩ := buildSignatureBase_ok parses components params
      let seed : Bytes 32 := ⟨List.replicate 32 0, List.length_replicate⟩
      have plain : '=' ∉ "sig1".toList := by decide
      have signed := verifyRequest_signed correct read built plain seed
      obtain ⟨components', params', read', after⟩ := faithful _ _ ⟨_, signed, rfl⟩
      exact ⟨_, after, Canonical.of_written lowercasing ascii read' after⟩
  · rintro (unread | ⟨text, after, canonical⟩) signature key valid
    · obtain ⟨_, _, _, _, _, read, _⟩ := valid.verified
      exact absurd read (unread _)
    · obtain ⟨components, params, read, same⟩ := canonical.written ascii after now
      exact ⟨components, params, read, same ▸ after⟩

/-- With the headers of two requests in the form, one signature verifies for one text only. -/
theorem Canonical.signed_once (ascii : Unicode.Ascii) {request request' : HttpRequest}
    {input input' signature key : String} {text text' : List Char} {now now' : Int64}
    (after : afterLabel input = some text) (canonical : Canonical text)
    (after' : afterLabel input' = some text') (canonical' : Canonical text')
    (binding : ∀ base base', verifiedBase request input now = .ok base →
      verifiedBase request' input' now' = .ok base' → Ed25519.BindingKey key [base.toUTF8, base'.toUTF8])
    (valid : Valid request input signature key now) (valid' : Valid request' input' signature key now') :
    text = text' := by
  obtain ⟨components, params, base, label, bytes, read, built, decoded, verified⟩ := valid.verified
  obtain ⟨components', params', base', label', bytes', read', built', decoded', verified'⟩ := valid'.verified
  obtain ⟨rfl, rfl⟩ := Prod.mk.inj (Except.ok.inj (decoded.symm.trans decoded'))
  have bound := binding base base' (by simp only [verifiedBase, read, built, bind, Except.bind, orFault_ok])
    (by simp only [verifiedBase, read', built', bind, Except.bind, orFault_ok])
  have bytes := verify_binding bound List.mem_cons_self (List.mem_cons_of_mem _ List.mem_cons_self)
      verified verified'
  have bases : base = base' := String.toByteArray_inj.mp bytes
  obtain ⟨before, ends⟩ := buildSignatureBase_ends built
  obtain ⟨before', ends'⟩ := buildSignatureBase_ends built'
  obtain ⟨c, p, again, same⟩ := canonical.written ascii after now
  obtain ⟨c', p', again', same'⟩ := canonical'.written ascii after' now'
  obtain ⟨rfl, rfl⟩ := Prod.mk.inj (Except.ok.inj (read.symm.trans again))
  obtain ⟨rfl, rfl⟩ := Prod.mk.inj (Except.ok.inj (read'.symm.trans again'))
  rw [same] at ends
  rw [same'] at ends'
  exact canonical.determined canonical' (ends.symm.trans ((congrArg String.toList bases).trans ends'))

/-- A header is verified as it was received exactly when it cannot be read or is in the form, and
among headers in the form one signature verifies for one text. -/
theorem verifyRequest_asReceived (ascii : Unicode.Ascii) (lowercasing : Unicode.Lowercasing)
    (correct : Ed25519.Correct) {request : HttpRequest} (parses : UrlCrate.parse request.url ≠ none) :
    (∀ input now, VerifiedAsReceived request input now ↔
      (∀ read, parseSignatureInput input now ≠ .ok read) ∨
        ∃ text, afterLabel input = some text ∧ Canonical text) ∧
    ∀ (request' : HttpRequest) (input input' signature key : String) (text text' : List Char)
      (now now' : Int64),
      afterLabel input = some text → Canonical text →
      afterLabel input' = some text' → Canonical text' →
      (∀ base base', verifiedBase request input now = .ok base →
        verifiedBase request' input' now' = .ok base' → Ed25519.BindingKey key [base.toUTF8, base'.toUTF8]) →
      Valid request input signature key now → Valid request' input' signature key now' →
      text = text' :=
  ⟨fun input now => verifiedAsReceived_iff ascii lowercasing correct parses input now,
    fun _ _ _ _ _ _ _ _ _ after canonical after' canonical' binding valid valid' =>
      Canonical.signed_once ascii after canonical after' canonical' binding valid valid'⟩

end Verify

section
open scoped StandIn

theorem StandIn.unicode_lowercasing : Unicode.Lowercasing where
  keeps_solid s c member foul := by
    have chars : (Unicode.toLowercase s).toList = s.toList.map Char.toLower := String.toList_ofList
    rw [chars] at member
    obtain ⟨x, present, rfl⟩ := List.mem_map.mp member
    by_cases upper : x.val ≥ 'A'.val ∧ x.val ≤ 'Z'.val
    · have small : ∀ n < 128, 65 ≤ n ∧ n ≤ 90 → ¬ (isWhitespace (Char.ofNat n).toLower = true ∨
          (Char.ofNat n).toLower = ')') := by decide
      have low : 65 ≤ x.toNat := upper.1
      have high : x.toNat ≤ 90 := upper.2
      have clean := small x.toNat (by omega) ⟨low, high⟩
      rw [Char.ofNat_toNat] at clean
      exact absurd foul clean
    · have same : x.toLower = x := dif_neg upper
      rw [same]
      exact present

namespace StandIn

def page : HttpRequest where
  method := "GET"
  url := "http://a.example/x"
  headers := []
  body := none

def params : SignatureParams where
  keyid := "k"
  alg := .ed25519
  created := 1
  expires := none
  nonce := none
  label := "sig1"

def ordered : String := "sig1=(\"@method\");keyid=\"k\";alg=\"ed25519\";created=1"

/-- The order in which the proxy writes its parameters. -/
def reordered : String := "sig1=(\"@method\");created=1;keyid=\"k\";alg=\"ed25519\""

theorem ordered_read : parseSignatureInput ordered 1 =
    .ok ([.method], params) := by
  decide

theorem reordered_read : parseSignatureInput reordered 1 = parseSignatureInput ordered 1 := by
  have read : parseSignatureInput reordered 1 = .ok ([.method], params) := by decide
  exact read.trans ordered_read.symm

theorem page_parses : UrlCrate.parse page.url ≠ none := by decide

theorem ordered_after : afterLabel ordered =
    some "(\"@method\");keyid=\"k\";alg=\"ed25519\";created=1".toList := by
  decide

theorem ordered_canonical :
    Canonical "(\"@method\");keyid=\"k\";alg=\"ed25519\";created=1".toList := by
  refine ⟨["\"@method\"".toList], params, by decide, fun w member => ?_, ?_⟩
  · rw [List.mem_singleton.mp member]
    exact ⟨forall_of_all (by decide), by decide, by decide⟩
  · refine ⟨by decide, trimmed_of_forall (forall_of_all (by decide)), ?_, ?_⟩
    · intro nonce given
      cases given
    · intro nonce given
      cases given

end StandIn

theorem verifyRequest_asReceived_ordered :
    VerifiedAsReceived StandIn.page StandIn.ordered 1 :=
  ((verifyRequest_asReceived StandIn.unicode_ascii StandIn.unicode_lowercasing StandIn.ed25519_correct
    StandIn.page_parses).1 _ _).mpr (.inr ⟨_, StandIn.ordered_after, StandIn.ordered_canonical⟩)

/-- A header in the order of the proxy verifies over another text, with the signature of the header
that has this text. -/
theorem verifyRequest_rewrites :
    ¬ (∀ (request : HttpRequest) (input : String) (now : Int64),
      UrlCrate.parse request.url ≠ none → VerifiedAsReceived request input now) ∧
    ¬ ∀ (request : HttpRequest) (input input' signature key : String) (now : Int64),
      Valid request input signature key now → Valid request input' signature key now →
        afterLabel input = afterLabel input' := by
  obtain ⟨base, built⟩ := buildSignatureBase_ok StandIn.page_parses [.method] StandIn.params
  have plain : '=' ∉ "sig1".toList := by decide
  have signed := verifyRequest_signed StandIn.ed25519_correct StandIn.ordered_read built plain StandIn.seed
  have signed' := verifyRequest_signed StandIn.ed25519_correct
    (StandIn.reordered_read.trans StandIn.ordered_read) built plain StandIn.seed
  have differ : afterLabel StandIn.ordered ≠ afterLabel StandIn.reordered := by decide
  constructor
  · intro faithful
    obtain ⟨components, params, read, after⟩ := faithful StandIn.page StandIn.reordered 1 StandIn.page_parses
      _ _ ⟨_, signed', rfl⟩
    have same := read.symm.trans (StandIn.reordered_read.trans StandIn.ordered_read)
    obtain ⟨rfl, rfl⟩ := Prod.mk.inj (Except.ok.inj same)
    have written : some (signatureParams [Component.method] StandIn.params).toList =
        afterLabel StandIn.ordered := by
      decide
    exact differ (written.symm.trans after.symm)
  · intro once
    exact differ (once _ _ _ _ _ _ ⟨_, signed, rfl⟩ ⟨_, signed', rfl⟩)

end

end GrokingClawId.Core
