import GrokingClawId.Core.HttpSigText
import GrokingClawId.Lib.Separated

/-!
# What a signature base binds

The lines of a signature base, each with the identifier of a component and its value, and the last one
with the parameters. Without newlines in the values the lines can be told apart, so the base determines
what it lists.
-/

namespace GrokingClawId.Core
open Text Separated

/-! ### The parameters -/

theorem asStr_unquoted (alg : SignatureAlgorithm) : '"' ∉ alg.asStr.toList := by
  cases alg <;> decide

theorem asStr_inj {alg alg' : SignatureAlgorithm} (same : alg.asStr = alg'.asStr) : alg = alg' := by
  cases alg <;> cases alg' <;> first | rfl | exact absurd same (by decide)

theorem int64_text_inj {m n : Int64} (same : (toString m).toList = (toString n).toList) :
    m = n := by
  have parsed := SignatureParams.parseI64_toString m
  rw [same, SignatureParams.parseI64_toString] at parsed
  exact (Option.some.inj parsed).symm

namespace SignatureParams

/-- Nothing in the parameters ends a quoted text before its end. -/
structure Unquoted (params : SignatureParams) : Prop where
  keyid : '"' ∉ params.keyid.toList
  nonce : ∀ nonce ∈ params.nonce, '"' ∉ nonce.toList

def expiresText (params : SignatureParams) : List Char :=
  match params.expires with
  | some expires => ";expires=".toList ++ (toString expires).toList
  | none => []

def nonceText (params : SignatureParams) : List Char :=
  match params.nonce with
  | some nonce => ";nonce=\"".toList ++ (nonce.toList ++ ['"'])
  | none => []

theorem parts_text (params : SignatureParams) : params.parts.flatMap (';' :: ·) =
    ";keyid=\"".toList ++ (params.keyid.toList ++ '"' :: (";alg=\"".toList ++ (params.alg.asStr.toList ++
      '"' :: (";created=".toList ++ ((toString params.created).toList ++
        (params.expiresText ++ params.nonceText)))))) := by
  obtain ⟨keyid, alg, created, expires, nonce, label⟩ := params
  cases expires <;> cases nonce <;> simp [parts, field, quoted, expiresText, nonceText]

theorem expiresText_next (params : SignatureParams) :
    ∀ x ∈ (params.expiresText ++ params.nonceText).head?, x = ';' := by
  obtain ⟨keyid, alg, created, expires, nonce, label⟩ := params
  cases expires <;> cases nonce <;> simp [expiresText, nonceText]

theorem nonceText_next (params : SignatureParams) : ∀ x ∈ params.nonceText.head?, x = ';' := by
  obtain ⟨keyid, alg, created, expires, nonce, label⟩ := params
  cases nonce <;> simp [nonceText]

theorem nonceText_not_expires (params : SignatureParams) (rest : List Char) :
    params.nonceText ≠ ";expires=".toList ++ rest := by
  obtain ⟨keyid, alg, created, expires, nonce, label⟩ := params
  cases nonce <;> simp [nonceText]

theorem nonceText_inj {params params' : SignatureParams} (unquoted : params.Unquoted)
    (unquoted' : params'.Unquoted) (same : params.nonceText = params'.nonceText) :
    params.nonce = params'.nonce := by
  cases nonce : params.nonce with
  | none =>
    cases nonce' : params'.nonce with
    | none => rfl
    | some n' => simp [nonceText, nonce, nonce'] at same
  | some n =>
    cases nonce' : params'.nonce with
    | none => simp [nonceText, nonce, nonce'] at same
    | some n' =>
      simp only [nonceText, nonce, nonce'] at same
      obtain ⟨chars, -⟩ := cut_first (unquoted.nonce n nonce) (unquoted'.nonce n' nonce')
        (List.append_cancel_left same)
      rw [String.toList_inj.mp chars]

theorem optional_inj {params params' : SignatureParams} (unquoted : params.Unquoted)
    (unquoted' : params'.Unquoted)
    (same : params.expiresText ++ params.nonceText = params'.expiresText ++ params'.nonceText) :
    params.expires = params'.expires ∧ params.nonce = params'.nonce := by
  have plain (n : Int64) : ';' ∉ (toString n).toList := fun member => (int64_plain _ member).1 rfl
  cases expires : params.expires with
  | none =>
    cases expires' : params'.expires with
    | none =>
      simp only [expiresText, expires, expires', List.nil_append] at same
      exact ⟨rfl, nonceText_inj unquoted unquoted' same⟩
    | some e' =>
      simp only [expiresText, expires, expires', List.nil_append, List.append_assoc] at same
      exact absurd same (nonceText_not_expires params _)
  | some e =>
    cases expires' : params'.expires with
    | none =>
      simp only [expiresText, expires, expires', List.nil_append, List.append_assoc] at same
      exact absurd same.symm (nonceText_not_expires params' _)
    | some e' =>
      simp only [expiresText, expires, expires', List.append_assoc] at same
      obtain ⟨digits, nonces⟩ := cut_or_end (plain e) (plain e') (nonceText_next params)
        (nonceText_next params') (List.append_cancel_left same)
      exact ⟨by rw [int64_text_inj digits], nonceText_inj unquoted unquoted' nonces⟩

theorem parts_one_line {params : SignatureParams} (keyid : '\n' ∉ params.keyid.toList)
    (nonce : ∀ nonce ∈ params.nonce, '\n' ∉ nonce.toList) :
    '\n' ∉ params.parts.flatMap (';' :: ·) := by
  have digits (n : Int64) : '\n' ∉ (toString n).toList :=
    fun member => absurd (int64_plain _ member).2.2 (by decide)
  have alg : '\n' ∉ params.alg.asStr.toList := by
    cases params.alg <;> decide
  have expires : '\n' ∉ params.expiresText := by
    unfold expiresText
    cases params.expires with
    | none => exact List.not_mem_nil
    | some e =>
      rw [List.mem_append, not_or]
      exact ⟨by decide, digits e⟩
  have nonces : '\n' ∉ params.nonceText := by
    unfold nonceText
    cases given : params.nonce with
    | none => exact List.not_mem_nil
    | some n =>
      simp only [List.mem_append, not_or]
      exact ⟨by decide, nonce n given, by decide⟩
  rw [parts_text]
  simp only [List.mem_append, List.mem_cons, not_or]
  exact ⟨by decide, keyid, by decide, by decide, alg, by decide, by decide, digits _, expires, nonces⟩

/-- What the text of the parameters says. -/
structure SameBound (params params' : SignatureParams) : Prop where
  keyid : params.keyid = params'.keyid
  alg : params.alg = params'.alg
  created : params.created = params'.created
  expires : params.expires = params'.expires
  nonce : params.nonce = params'.nonce

theorem parts_inj {params params' : SignatureParams} (unquoted : params.Unquoted)
    (unquoted' : params'.Unquoted)
    (same : params.parts.flatMap (';' :: ·) = params'.parts.flatMap (';' :: ·)) :
    SameBound params params' := by
  have plain (n : Int64) : ';' ∉ (toString n).toList := fun member => (int64_plain _ member).1 rfl
  rw [parts_text, parts_text] at same
  have quotedKeyid := List.append_cancel_left same
  obtain ⟨keyids, rest⟩ := cut_first unquoted.keyid unquoted'.keyid quotedKeyid
  have quotedAlg := List.append_cancel_left rest
  obtain ⟨algs, rest⟩ := cut_first (asStr_unquoted _) (asStr_unquoted _) quotedAlg
  have created := List.append_cancel_left rest
  obtain ⟨digits, rest⟩ := cut_or_end (plain _) (plain _) (expiresText_next params)
    (expiresText_next params') created
  obtain ⟨expires, nonces⟩ := optional_inj unquoted unquoted' rest
  exact ⟨String.toList_inj.mp keyids, asStr_inj (String.toList_inj.mp algs), int64_text_inj digits,
    expires, nonces⟩

end SignatureParams

/-! ### The lines -/

section Lines
variable [UrlCrate] [Unicode]

/-- The parts of a URL that was written without a newline have none. -/
def UrlCrate.Lines : Prop :=
  ∀ (text : String) (url : Url), UrlCrate.parse text = some url → '\n' ∉ text.toList →
    '\n' ∉ (url.hostStr.getD "").toList ∧ '\n' ∉ url.path.toList ∧
      ∀ query ∈ url.query, '\n' ∉ query.toList

/-- What a signature base is built of has no newline, no blank in a header name and no quote in a
quoted text. -/
structure OneLined (request : HttpRequest) (components : List Component)
    (params : SignatureParams) :
    Prop where
  method : '\n' ∉ request.method.toList
  url : '\n' ∉ request.url.toList
  headers : ∀ field ∈ request.headers, '\n' ∉ field.2.toList
  names : ∀ name, .header name ∈ components → ' ' ∉ name.toList ∧ '\n' ∉ name.toList
  keyid : '\n' ∉ params.keyid.toList
  nonce : ∀ nonce ∈ params.nonce, '\n' ∉ nonce.toList
  unquoted : params.Unquoted

namespace Component

omit [UrlCrate] in
theorem identifier_free (lowercasing : Unicode.Lowercasing) {x : Char}
    (blank : isWhitespace x = true) {c : Component}
    (free : ∀ name, c = header name → x ∉ name.toList) : x ∉ c.identifier.toList := by
  intro member
  rw [identifier_chars, List.cons_append, List.mem_cons, List.mem_append,
    List.mem_singleton] at member
  rcases member with rfl | inner | rfl
  · exact absurd blank (by decide)
  · have plain {name : String} (all : name.toList.all (fun c => decide (isWhitespace c = false)) = true)
        (member : x ∈ name.toList) : False := by
      have solid := of_decide_eq_true (List.all_eq_true.mp all x member)
      rw [blank] at solid
      cases solid
    cases c with
    | header name => exact free name rfl (lowercasing.keeps_solid name x inner (.inl blank))
    | _ =>
      simp only [Component.name] at inner
      exact plain (by decide) inner
  · exact absurd blank (by decide)

theorem value_one_line (uppercasing : Unicode.Uppercasing) (lines : UrlCrate.Lines)
    {request : HttpRequest} {url : Url} (parsed : UrlCrate.parse request.url = some url)
    (method : '\n' ∉ request.method.toList) (written : '\n' ∉ request.url.toList)
    (headers : ∀ field ∈ request.headers, '\n' ∉ field.2.toList) (c : Component) :
    '\n' ∉ (c.value request url).toList := by
  obtain ⟨host, path, query⟩ := lines request.url url parsed written
  cases c with
  | method => exact fun member => method (uppercasing.keeps_line _ member)
  | targetUri => exact written
  | authority =>
    simp only [value, String.toList_append, List.mem_append, not_or]
    refine ⟨host, ?_⟩
    cases url.port with
    | none => decide
    | some p =>
      intro member
      rcases List.mem_append.mp (by simpa [toString] using member : '\n' ∈ [':'] ++ p.repr.toList)
        with colon | digit
      · exact absurd colon (by decide)
      · exact absurd (digits_repr p _ digit) (by decide)
  | path => exact path
  | query =>
    cases asked : url.query with
    | none =>
      simp only [value, asked]
      decide
    | some q =>
      have free := query q asked
      simpa [value, asked, toString] using free
  | header name =>
    simp only [value]
    cases found : request.headers.find? fun field =>
        decide (Unicode.toLowercase field.1 = Unicode.toLowercase name) with
    | none =>
      simp
    | some field => exact headers field (List.mem_of_find?_eq_some found)

def line (request : HttpRequest) (url : Url) (c : Component) : List Char :=
  (c.identifier.toList ++ [':']) ++ ' ' :: (c.value request url).toList

end Component

/-- The components with what they are in a request. -/
def listed (request : HttpRequest) (url : Url) (components : List Component) :
    List (String × String) :=
  components.map fun c => (c.identifier, c.value request url)

theorem base_lines {request : HttpRequest} {components : List Component} {params : SignatureParams}
    {base : String} {url : Url} (parsed : UrlCrate.parse request.url = some url)
    (built : buildSignatureBase request components params = .ok base) :
    base.toList = ['\n'].intercalate (components.map (Component.line request url) ++
      [paramsLabel ++ (signatureParams components params).toList]) := by
  have last : (s!"\"@signature-params\": {signatureParams components params}").toList =
      paramsLabel ++ (signatureParams components params).toList := by
    show _ = "\"@signature-params\": ".toList ++ _
    exact String.toList_append
  have lines : components.map (String.toList ∘ fun c => s!"{c.identifier}: {c.value request url}") =
      components.map (Component.line request url) := by
    apply List.map_congr_left
    intro c _
    simp [Component.line, toString]
  have newline : "\n".toList = ['\n'] := rfl
  simp only [buildSignatureBase, parsed, orErr_some, bind, Except.bind] at built
  rw [← Except.ok.inj built, String.toList_intercalate, List.map_append, List.map_singleton, last,
    List.map_map, lines, newline]

variable {request request' : HttpRequest} {components components' : List Component}
  {params params' : SignatureParams}

theorem OneLined.line_free (lowercasing : Unicode.Lowercasing) (uppercasing : Unicode.Uppercasing)
    (lines : UrlCrate.Lines) (oneLined : OneLined request components params) {url : Url}
    (parsed : UrlCrate.parse request.url = some url) :
    ∀ line ∈ components.map (Component.line request url) ++
      [paramsLabel ++ (signatureParams components params).toList], '\n' ∉ line := by
  have identifiers : ∀ c ∈ components, '\n' ∉ c.identifier.toList := by
    intro c listed
    apply Component.identifier_free lowercasing (by decide)
    rintro name rfl
    exact (oneLined.names name listed).2
  intro line member
  rcases List.mem_append.mp member with component | last
  · obtain ⟨c, listed, rfl⟩ := List.mem_map.mp component
    have value := Component.value_one_line uppercasing lines parsed oneLined.method oneLined.url
      oneLined.headers c
    simp only [Component.line, List.mem_append, List.mem_cons, List.not_mem_nil, or_false, not_or]
    exact ⟨⟨identifiers c listed, by decide⟩, by decide, value⟩
  · have list : '\n' ∉ componentList components := by
      intro inside
      obtain ⟨identifier, listed, inIdentifier⟩ := mem_of_mem_intercalate (by decide) inside
      obtain ⟨c, present, rfl⟩ := List.mem_map.mp listed
      exact identifiers c present inIdentifier
    rw [List.mem_singleton.mp last, signatureParams_chars]
    simp only [List.mem_append, List.mem_cons, not_or]
    exact ⟨by decide, ⟨by decide, list⟩, by decide,
      SignatureParams.parts_one_line oneLined.keyid oneLined.nonce⟩

omit [UrlCrate] in
theorem OneLined.line_inj (lowercasing : Unicode.Lowercasing) {url url' : Url}
    (oneLined : OneLined request components params)
    (oneLined' : OneLined request' components' params')
    (same : components.map (Component.line request url) =
      components'.map (Component.line request' url')) :
    listed request url components = listed request' url' components' := by
  have blankless {request : HttpRequest} {components : List Component} {params : SignatureParams}
      (oneLined : OneLined request components params) :
      ∀ c ∈ components, ' ' ∉ c.identifier.toList ++ [':'] := by
    intro c listed
    rw [List.mem_append, not_or]
    refine ⟨Component.identifier_free lowercasing (by decide) ?_, by decide⟩
    rintro name rfl
    exact (oneLined.names name listed).1
  replace oneLined := blankless oneLined
  replace oneLined' := blankless oneLined'
  unfold listed
  induction components generalizing components' with
  | nil =>
    cases components' with
    | nil => rfl
    | cons c' components' => cases same
  | cons c components ih =>
    cases components' with
    | nil => cases same
    | cons c' components' =>
      obtain ⟨first, rest⟩ := List.cons.inj same
      obtain ⟨identifiers, values⟩ := cut_first (oneLined c List.mem_cons_self)
        (oneLined' c' List.mem_cons_self) first
      have identifier := String.toList_inj.mp (List.append_cancel_right identifiers)
      have others := ih rest (fun c listed => oneLined c (List.mem_cons_of_mem _ listed))
        (fun c listed => oneLined' c (List.mem_cons_of_mem _ listed))
      rw [List.map_cons, List.map_cons, identifier, String.toList_inj.mp values, others]

omit [UrlCrate] in
theorem listed_identifiers {url url' : Url}
    (same : listed request url components = listed request' url' components') :
    components.map Component.identifier = components'.map Component.identifier := by
  have firsts := congrArg (List.map Prod.fst) same
  rw [listed, listed, List.map_map, List.map_map] at firsts
  exact firsts

omit [UrlCrate] in
/-- Well named components with one identifier have one value. -/
theorem Component.value_of_identifier (ascii : Unicode.Ascii) {c c' : Component}
    (named : c.WellNamed) (named' : c'.WellNamed) (same : c.identifier = c'.identifier)
    (request : HttpRequest) (url : Url) :
    c.value request url = c'.value request url := by
  have lowered : c.lowered = c'.lowered := by
    rw [← parse_identifier ascii named, ← parse_identifier ascii named', same]
  rw [← value_lowered ascii named, ← value_lowered ascii named', lowered]

omit [UrlCrate] in
theorem listed_values (ascii : Unicode.Ascii) {url url' : Url}
    (named : ∀ c ∈ components, c.WellNamed) (named' : ∀ c ∈ components', c.WellNamed)
    (same : listed request url components = listed request' url' components') :
    ∀ c ∈ components, c.value request url = c.value request' url' := by
  intro c present
  have pair : (c.identifier, c.value request url) ∈ listed request' url' components' := by
    rw [← same]
    exact List.mem_map.mpr ⟨c, present, rfl⟩
  obtain ⟨c', present', equal⟩ := List.mem_map.mp pair
  obtain ⟨identifier, value⟩ := Prod.mk.inj equal
  rw [← value]
  exact Component.value_of_identifier ascii (named' c' present') (named c present) identifier _ _

/-- A signature base determines the components that it lists, what they are in the request, and the
parameters. -/
theorem buildSignatureBase_binds (ascii : Unicode.Ascii) (lowercasing : Unicode.Lowercasing)
    (uppercasing : Unicode.Uppercasing) (lines : UrlCrate.Lines) {url url' : Url} {base : String}
    (parsed : UrlCrate.parse request.url = some url)
    (parsed' : UrlCrate.parse request'.url = some url')
    (oneLined : OneLined request components params)
    (oneLined' : OneLined request' components' params')
    (built : buildSignatureBase request components params = .ok base)
    (built' : buildSignatureBase request' components' params' = .ok base) :
    components.map Component.identifier = components'.map Component.identifier ∧
    SignatureParams.SameBound params params' ∧
    components.map (Component.value request url) = components'.map (Component.value request' url') ∧
    ((∀ c ∈ components, c.WellNamed) → (∀ c ∈ components', c.WellNamed) →
      ∀ c ∈ components, c.value request url = c.value request' url') := by
  have text := (base_lines parsed built).symm.trans (base_lines parsed' built')
  have all := join_inj (oneLined.line_free lowercasing uppercasing lines parsed)
    (oneLined'.line_free lowercasing uppercasing lines parsed') (by simp) (by simp) text
  obtain ⟨components_same, last⟩ :=
    List.append_inj' all (by rw [List.length_singleton, List.length_singleton])
  have same := OneLined.line_inj lowercasing oneLined oneLined' components_same
  have identifiers := listed_identifiers same
  refine ⟨identifiers, ?_, ?_, fun named named' => listed_values ascii named named' same⟩
  · have paramsText := List.append_cancel_left (List.singleton_inj.mp last)
    have list : componentList components = componentList components' := by
      have texts := congrArg (List.map String.toList) identifiers
      rw [List.map_map, List.map_map] at texts
      exact congrArg [' '].intercalate texts
    rw [signatureParams_chars, signatureParams_chars, list] at paramsText
    exact SignatureParams.parts_inj oneLined.unquoted oneLined'.unquoted
      (List.cons.inj (List.append_cancel_left paramsText)).2
  · have values := congrArg (List.map Prod.snd) same
    rw [listed, listed, List.map_map, List.map_map] at values
    exact values

end Lines

/-! ### Two ways to write one request -/

section
open scoped StandIn

theorem StandIn.unicode_uppercasing : Unicode.Uppercasing where
  keeps_line s member := by
    have chars : (Unicode.toUppercase s).toList = s.toList.map Char.toUpper := String.toList_ofList
    rw [chars] at member
    obtain ⟨x, present, newline⟩ := List.mem_map.mp member
    by_cases lower : x.val ≥ 'a'.val ∧ x.val ≤ 'z'.val
    · have small : ∀ n < 128, 97 ≤ n ∧ n ≤ 122 → (Char.ofNat n).toUpper ≠ '\n' := by decide
      have low : 97 ≤ x.toNat := lower.1
      have high : x.toNat ≤ 122 := lower.2
      have other := small x.toNat (by omega) ⟨low, high⟩
      rw [Char.ofNat_toNat] at other
      exact absurd newline other
    · have same : x.toUpper = x := dif_neg lower
      rw [← newline, same]
      exact present

theorem StandIn.urlCrate_lines : UrlCrate.Lines := by
  intro text url parsed free
  have rest : '\n' ∉ text.toList.drop 7 := fun member => free (List.mem_of_mem_drop member)
  simp only [UrlCrate.parse] at parsed
  split at parsed
  · obtain rfl := Option.some.inj parsed
    refine ⟨?_, ?_, ?_⟩
    · rw [Option.getD_some, String.toList_ofList]
      exact fun member => rest ((List.takeWhile_sublist _).subset member)
    · rw [String.toList_ofList]
      exact fun member => rest ((List.dropWhile_sublist _).subset member)
    · intro query asked
      cases asked
  · cases parsed

namespace StandIn

def pageUrl : Url where
  hostStr := some "a.example"
  port := none
  path := "/x"
  query := none

def pageBase : String :=
  "\"@method\": GET\n\"@signature-params\": (\"@method\");keyid=\"k\";alg=\"ed25519\";created=1"

theorem page_oneLined {method : String} (free : '\n' ∉ method.toList) :
    OneLined { page with method := method } [.method] params where
  method := free
  url := (by decide : '\n' ∉ page.url.toList)
  headers field member := nomatch member
  names name listed := by
    cases List.mem_singleton.mp listed
  keyid := by decide
  nonce nonce given := nomatch given
  unquoted := ⟨by decide, fun nonce given => nomatch given⟩

end StandIn

/-- The method is bound up to its case. -/
theorem buildSignatureBase_binds_page :
    [Component.method].map (Component.value StandIn.page StandIn.pageUrl) =
      [Component.method].map (Component.value { StandIn.page with method := "get" } StandIn.pageUrl) := by
  have url : UrlCrate.parse StandIn.page.url = some StandIn.pageUrl := rfl
  have base (method : String) (upper : Unicode.toUppercase method = "GET") :
      buildSignatureBase { StandIn.page with method := method } [.method] StandIn.params =
        .ok StandIn.pageBase := by
    simp only [buildSignatureBase, url, orErr_some, bind, Except.bind, List.map_cons, List.map_nil,
      Component.value, upper]
    decide
  exact (buildSignatureBase_binds StandIn.unicode_ascii StandIn.unicode_lowercasing
    StandIn.unicode_uppercasing StandIn.urlCrate_lines url url (StandIn.page_oneLined (by decide))
    (StandIn.page_oneLined (by decide)) (base "GET" (by decide)) (base "get" (by decide))).2.2.1

end

end GrokingClawId.Core
