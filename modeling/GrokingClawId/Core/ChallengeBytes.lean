import GrokingClawId.Core.Challenge
import GrokingClawId.Lib.Separated

/-!
# What the bytes of a challenge determine

The bytes that a responder signs, and which challenges have the same. The separator is a zero byte, which
the strings of a challenge may contain; a missing scheme is written as an empty one, and no scope as
an empty scope.
-/

namespace GrokingClawId.Core
open Separated

/-! ### Encodings -/

theorem utf8_chars (text : String) : utf8 text = text.toList.flatMap String.utf8EncodeChar := by
  have encoded : text.toUTF8 = text.toList.utf8Encode := String.utf8Encode_toList.symm
  rw [utf8, encoded, List.utf8Encode]
  simp

theorem utf8_append (s t : String) : utf8 (s ++ t) = utf8 s ++ utf8 t := by
  rw [utf8_chars, utf8_chars, utf8_chars, String.toList_append, List.flatMap_append]

theorem utf8_inj {s t : String} (same : utf8 s = utf8 t) : s = t := by
  have bytes : s.toUTF8 = t.toUTF8 := ByteArray.ext (Array.toList_inj.mp same)
  exact String.toByteArray_inj.mp bytes

/-- Only one character has a zero byte in it. -/
theorem zero_mem_utf8EncodeChar {c : Char} : 0 ∈ String.utf8EncodeChar c ↔ c = '\x00' := by
  constructor
  · intro member
    have small (n : Nat) (zero : 0 = UInt8.ofNat n) : n % 256 = 0 :=
      (congrArg UInt8.toNat zero).symm
    unfold String.utf8EncodeChar at member
    apply Char.toNat_inj.mp
    show c.val.toNat = 0
    dsimp only at member
    split at member
    · have := small _ (List.mem_singleton.mp member)
      omega
    · exfalso
      split at member
      · simp only [List.mem_cons, List.not_mem_nil, or_false] at member
        rcases member with h | h <;> have := small _ h <;> omega
      · split at member
        · simp only [List.mem_cons, List.not_mem_nil, or_false] at member
          rcases member with h | h | h <;> have := small _ h <;> omega
        · simp only [List.mem_cons, List.not_mem_nil, or_false] at member
          rcases member with h | h | h | h <;> have := small _ h <;> omega
  · rintro rfl
    decide

def Nul (text : String) : Prop := '\x00' ∈ text.toList

theorem zero_mem_utf8 {text : String} : 0 ∈ utf8 text ↔ Nul text := by
  rw [utf8_chars, List.mem_flatMap]
  constructor
  · rintro ⟨c, member, zero⟩
    rw [zero_mem_utf8EncodeChar.mp zero] at member
    exact member
  · intro member
    exact ⟨'\x00', member, zero_mem_utf8EncodeChar.mpr rfl⟩

theorem nul_split {text : String} (nul : Nul text) :
    ∃ p q, utf8 text = utf8 p ++ 0 :: utf8 q ∧ p ≠ text ∧ q ≠ text := by
  obtain ⟨before, after, split⟩ := List.append_of_mem nul
  have whole : text = String.ofList before ++ ("\x00" ++ String.ofList after) := by
    apply String.toList_inj.mp
    simpa using split
  have shorter (part : String) (less : part.length < text.length) : part ≠ text := by
    rintro rfl
    exact Nat.lt_irrefl _ less
  refine ⟨String.ofList before, String.ofList after, ?_, shorter _ ?_, shorter _ ?_⟩
  · conv_lhs => rw [whole, utf8_append, utf8_append]
    rfl
  · rw [← String.length_toList, ← String.length_toList, String.toList_ofList, split]
    simp
  · rw [← String.length_toList, ← String.length_toList, String.toList_ofList, split]
    simp
    omega

theorem length_toLeBytes (n : Int) : (toLeBytes n).length = 8 := by
  simp [toLeBytes]

def FitsI64 (n : Int) : Prop := -9223372036854775808 ≤ n ∧ n ≤ 9223372036854775807

theorem toLeBytes_inj {m n : Int} (fitsM : FitsI64 m) (fitsN : FitsI64 n)
    (same : toLeBytes m = toLeBytes n) :
    m = n := by
  let x := (m % UInt64.size).toNat
  let y := (n % UInt64.size).toNat
  have digit : ∀ i < 8, x / 256 ^ i % 256 = y / 256 ^ i % 256 := by
    intro i small
    have byte := congrArg (fun bytes => bytes[i]?.map UInt8.toNat) same
    simpa [toLeBytes, small, x, y] using byte
  have lower : ∀ k ≤ 8, x % 256 ^ k = y % 256 ^ k := by
    intro k
    induction k with
    | zero => intro _; rw [Nat.pow_zero, Nat.mod_one, Nat.mod_one]
    | succ k ih =>
      intro small
      rw [Nat.mod_pow_succ, Nat.mod_pow_succ, ih (by omega), digit k (by omega)]
  have all := lower 8 le_rfl
  have size : (UInt64.size : Int) = 18446744073709551616 := rfl
  simp only [x, y, size] at all
  unfold FitsI64 at fitsM fitsN
  omega

/-! ### The bytes of a challenge -/

/-- The times of a challenge are ones that `chrono` represents. -/
def Challenge.Timed (challenge : Challenge) : Prop :=
  (DateTime.min ≤ challenge.issuedAt ∧ challenge.issuedAt ≤ DateTime.max) ∧
    DateTime.min ≤ challenge.expiresAt ∧ challenge.expiresAt ≤ DateTime.max

theorem fits_timestamp {t : Int} (range : DateTime.min ≤ t ∧ t ≤ DateTime.max) :
    FitsI64 (DateTime.timestamp t) := by
  obtain ⟨low, high⟩ := range
  have least : (-8334601228800 * 1000000000 : Int) ≤ t := low
  have greatest : t ≤ (8210266876799 * 1000000000 + 999999999 : Int) := high
  show -9223372036854775808 ≤ t / 1000000000 ∧ t / 1000000000 ≤ 9223372036854775807
  omega

namespace Challenge

/-- What a response to the challenge is meant to be bound to. -/
structure SameSigned (c c' : Challenge) : Prop where
  id : c.id = c'.id
  nonce : c.nonce = c'.nonce
  issuer : c.issuer = c'.issuer
  issuedAt : DateTime.timestamp c.issuedAt = DateTime.timestamp c'.issuedAt
  expiresAt : DateTime.timestamp c.expiresAt = DateTime.timestamp c'.expiresAt
  minCrypto : c.minCrypto = c'.minCrypto
  requiredScopes : c.requiredScopes = c'.requiredScopes

def times (c : Challenge) : List UInt8 :=
  toLeBytes (DateTime.timestamp c.issuedAt) ++ 0 :: toLeBytes (DateTime.timestamp c.expiresAt)

def front (c : Challenge) : List UInt8 := utf8 c.nonce ++ 0 :: utf8 c.issuer

def back (c : Challenge) : List UInt8 :=
  (c.minCrypto.map utf8).getD [] ++ 0 :: [0].intercalate (c.requiredScopes.map utf8)

theorem bytes_eq (c : Challenge) : (challengeToSignBytes c).data.toList =
    c.id.val ++ 0 :: (c.front ++ 0 :: (c.times ++ 0 :: c.back)) := by
  simp [challengeToSignBytes, front, times, back]

theorem same_bytes_iff {c c' : Challenge} : challengeToSignBytes c = challengeToSignBytes c' ↔
    c.id = c'.id ∧ c.front ++ 0 :: (c.times ++ 0 :: c.back) =
      c'.front ++ 0 :: (c'.times ++ 0 :: c'.back) := by
  have bytes : challengeToSignBytes c = challengeToSignBytes c' ↔
      (challengeToSignBytes c).data.toList = (challengeToSignBytes c').data.toList :=
    ⟨fun same => by rw [same], fun same => ByteArray.ext (Array.toList_inj.mp same)⟩
  rw [bytes, bytes_eq, bytes_eq]
  constructor
  · intro same
    obtain ⟨ids, rest⟩ := List.append_inj same (c.id.property.trans c'.id.property.symm)
    exact ⟨Subtype.ext ids, (List.cons.inj rest).2⟩
  · rintro ⟨ids, rest⟩
    rw [ids, rest]

theorem length_times (c : Challenge) : c.times.length = 17 := by
  simp [times, length_toLeBytes]

theorem times_inj {c c' : Challenge} (timed : c.Timed) (timed' : c'.Timed)
    (same : c.times = c'.times) :
    DateTime.timestamp c.issuedAt = DateTime.timestamp c'.issuedAt ∧
      DateTime.timestamp c.expiresAt = DateTime.timestamp c'.expiresAt := by
  obtain ⟨issued, rest⟩ := List.append_inj same ((length_toLeBytes _).trans (length_toLeBytes _).symm)
  exact ⟨toLeBytes_inj (fits_timestamp timed.1) (fits_timestamp timed'.1) issued,
    toLeBytes_inj (fits_timestamp timed.2) (fits_timestamp timed'.2) (List.cons.inj rest).2⟩

/-- The challenge cannot be mistaken for one that says something else. -/
def Determined (c : Challenge) : Prop :=
  ∀ c' : Challenge, c'.Timed → challengeToSignBytes c = challengeToSignBytes c' → SameSigned c c'

/-- No string has the separator in it, a scheme is named and exactly one scope, and neither is
empty. -/
structure Plain (c : Challenge) : Prop where
  nonce : ¬ Nul c.nonce
  issuer : ¬ Nul c.issuer
  minCrypto : ∃ m, c.minCrypto = some m ∧ m ≠ "" ∧ ¬ Nul m
  requiredScopes : ∃ s, c.requiredScopes = [s] ∧ s ≠ "" ∧ ¬ Nul s

theorem utf8_ne_nil {text : String} (nonempty : text ≠ "") : utf8 text ≠ [] := by
  intro empty
  exact nonempty (utf8_inj (empty.trans rfl))

theorem plain_determined {c : Challenge} (timed : c.Timed) (plain : c.Plain) : c.Determined := by
  intro c' timed' same
  obtain ⟨m, crypto, someM, freeM⟩ := plain.minCrypto
  obtain ⟨s, scopes, someS, freeS⟩ := plain.requiredScopes
  have free {text : String} (plain : ¬ Nul text) : 0 ∉ utf8 text := mt zero_mem_utf8.mp plain
  have back_eq : c.back = utf8 m ++ 0 :: utf8 s := by
    simp [back, crypto, scopes]
  have one {a b : List UInt8} (freeA : 0 ∉ a) (freeB : 0 ∉ b) : (a ++ 0 :: b).count 0 = 1 := by
    rw [count_pair, List.count_eq_zero.mpr freeA, List.count_eq_zero.mpr freeB]
  have more (a b : List UInt8) : 1 ≤ (a ++ 0 :: b).count 0 := by
    rw [count_pair]
    omega
  obtain ⟨ids, rest⟩ := same_bytes_iff.mp same
  have oneBack : c.back.count 0 = 1 := by
    rw [back_eq]
    exact one (free freeM) (free freeS)
  obtain ⟨fronts, times, backs⟩ := frame_inj ((length_times c).trans (length_times c').symm)
    (one (free plain.nonce) (free plain.issuer)) oneBack (more _ _) (more _ _) rest
  obtain ⟨nonces, issuers⟩ := pair_inj (free plain.nonce) (free plain.issuer) fronts
  obtain ⟨issued, expires⟩ := times_inj timed timed' times
  rw [back_eq] at backs
  obtain ⟨cryptos, joined⟩ := pair_inj (free freeM) (free freeS) backs
  refine ⟨ids, utf8_inj nonces, utf8_inj issuers, issued, expires, ?_, ?_⟩
  · rw [crypto]
    cases other : c'.minCrypto with
    | none =>
      rw [other] at cryptos
      exact absurd cryptos (utf8_ne_nil someM)
    | some m' =>
      rw [other] at cryptos
      rw [utf8_inj cryptos]
  · rw [scopes]
    rcases join_single (free freeS) joined.symm with single | none
    · obtain ⟨s', other, encoded⟩ := List.map_eq_singleton_iff.mp single
      rw [other, utf8_inj encoded]
    · rw [none] at joined
      exact absurd joined (utf8_ne_nil someS)

/-! ### Challenges with the same bytes -/

theorem not_determined {c : Challenge} (c' : Challenge) (timed : c'.Timed) (ids : c.id = c'.id)
    (fronts : c.front = c'.front) (times : c.times = c'.times) (backs : c.back = c'.back)
    (differ : ¬ SameSigned c c') : ¬ c.Determined := by
  intro determined
  apply differ
  apply determined c' timed
  rw [same_bytes_iff, ids, fronts, times, backs]
  exact ⟨rfl, rfl⟩

theorem nonce_not_determined {c : Challenge} (timed : c.Timed) (nul : Nul c.nonce) :
    ¬ c.Determined := by
  obtain ⟨p, q, split, shorter, -⟩ := nul_split nul
  let c' : Challenge := { c with nonce := p, issuer := q ++ ("\x00" ++ c.issuer) }
  have fronts : c.front = c'.front := by
    simp only [front, c', utf8_append, split, List.append_assoc]
    rfl
  refine not_determined c' timed rfl fronts rfl rfl fun same => ?_
  exact shorter same.nonce.symm

theorem issuer_not_determined {c : Challenge} (timed : c.Timed) (nul : Nul c.issuer) :
    ¬ c.Determined := by
  obtain ⟨p, q, split, -, shorter⟩ := nul_split nul
  let c' : Challenge := { c with nonce := c.nonce ++ ("\x00" ++ p), issuer := q }
  have fronts : c.front = c'.front := by
    simp only [front, c', utf8_append, split, List.append_assoc]
    rfl
  refine not_determined c' timed rfl fronts rfl rfl fun same => ?_
  exact shorter same.issuer.symm

/-- A scheme that is missing is written like an empty one. -/
theorem minCrypto_not_determined {c : Challenge} (timed : c.Timed)
    (other : ¬ ∃ m, c.minCrypto = some m ∧ m ≠ "" ∧ ¬ Nul m) : ¬ c.Determined := by
  cases crypto : c.minCrypto with
  | none =>
    let c' : Challenge := { c with minCrypto := some "" }
    have backs : c.back = c'.back := by
      simp only [back, c', crypto]
      rfl
    refine not_determined c' timed rfl rfl rfl backs fun same => ?_
    have equal := same.minCrypto
    rw [crypto] at equal
    cases equal
  | some m =>
    by_cases empty : m = ""
    · subst empty
      let c' : Challenge := { c with minCrypto := none }
      have backs : c.back = c'.back := by
        simp only [back, c', crypto]
        rfl
      refine not_determined c' timed rfl rfl rfl backs fun same => ?_
      have equal := same.minCrypto
      rw [crypto] at equal
      cases equal
    · have nul : Nul m := by
        by_contra free
        exact other ⟨m, crypto, empty, free⟩
      obtain ⟨p, q, split, shorter, -⟩ := nul_split nul
      -- What follows the separator becomes a scope; without a scope it takes an empty one along.
      let c' : Challenge :=
        { c with minCrypto := some p, requiredScopes := q :: if c.requiredScopes = [] then [""]
                 else c.requiredScopes }
      have backs : c.back = c'.back := by
        unfold back
        cases scopes : c.requiredScopes with
        | nil =>
          simp only [c', crypto, scopes, Option.map_some, Option.getD_some, split,
            List.append_assoc]
          rfl
        | cons s rest =>
          simp only [c', crypto, scopes, Option.map_some, Option.getD_some, split,
            List.append_assoc, List.map_cons, List.intercalate_cons_cons, reduceCtorEq, if_false]
          rfl
      refine not_determined c' timed rfl rfl rfl backs fun same => ?_
      have equal := same.minCrypto
      rw [crypto] at equal
      exact shorter (Option.some.inj equal).symm

/-- No scope is written like an empty one, and two scopes like one with the separator in it. -/
theorem requiredScopes_not_determined {c : Challenge} (timed : c.Timed)
    (other : ¬ ∃ s, c.requiredScopes = [s] ∧ s ≠ "" ∧ ¬ Nul s) : ¬ c.Determined := by
  have replaced (scopes : List String) (differ : c.requiredScopes ≠ scopes)
      (joined : [0].intercalate (c.requiredScopes.map utf8) = [0].intercalate (scopes.map utf8)) :
        ¬ c.Determined := by
    let c' : Challenge := { c with requiredScopes := scopes }
    have backs : c.back = c'.back := by
      simp only [back, c', joined]
    exact not_determined c' timed rfl rfl rfl backs fun same => differ same.requiredScopes
  cases scopes : c.requiredScopes with
  | nil =>
    rw [scopes] at replaced
    exact replaced [""] (by simp) rfl
  | cons a rest =>
    rw [scopes] at replaced
    cases rest with
    | nil =>
      by_cases empty : a = ""
      · subst empty
        exact replaced [] (by simp) rfl
      · have nul : Nul a := by
          by_contra free
          exact other ⟨a, scopes, empty, free⟩
        obtain ⟨p, q, split, -, -⟩ := nul_split nul
        apply replaced [p, q] (by simp)
        simp only [List.map_cons, List.map_nil, List.intercalate_singleton,
          List.intercalate_cons_cons, split, List.append_assoc]
        rfl
    | cons b rest =>
      apply replaced ((a ++ ("\x00" ++ b)) :: rest)
      · intro same
        have lengths := congrArg List.length same
        simp at lengths
      · have joins : utf8 (a ++ ("\x00" ++ b)) = utf8 a ++ 0 :: utf8 b := by
          rw [utf8_append, utf8_append]
          rfl
        cases rest with
        | nil => simp [joins, List.intercalate_cons_cons]
        | cons d rest => simp [joins, List.intercalate_cons_cons]

theorem determined_plain {c : Challenge} (timed : c.Timed) (determined : c.Determined) :
    c.Plain where
  nonce nul := nonce_not_determined timed nul determined
  issuer nul := issuer_not_determined timed nul determined
  minCrypto := by
    by_contra other
    exact minCrypto_not_determined timed other determined
  requiredScopes := by
    by_contra other
    exact requiredScopes_not_determined timed other determined

/-! ### Challenges that say what they are -/

/-- No string has the separator in it, and nothing empty stands for something missing. -/
structure Clean (c : Challenge) : Prop where
  nonce : ¬ Nul c.nonce
  issuer : ¬ Nul c.issuer
  minCrypto : ∀ m, c.minCrypto = some m → m ≠ "" ∧ ¬ Nul m
  scopes : ∀ s ∈ c.requiredScopes, ¬ Nul s
  someScope : c.requiredScopes ≠ [""]

theorem free_utf8 {texts : List String} (free : ∀ s ∈ texts, ¬ Nul s) :
    ∀ x ∈ texts.map utf8, (0 : UInt8) ∉ x := by
  intro x member
  obtain ⟨text, present, rfl⟩ := List.mem_map.mp member
  exact mt zero_mem_utf8.mp (free text present)

theorem no_scope {scopes : List String} (free : ∀ s ∈ scopes, ¬ Nul s)
    (joined : [0].intercalate (scopes.map utf8) = []) :
    scopes = [] ∨ scopes = [""] := by
  cases scopes with
  | nil => exact .inl rfl
  | cons s rest =>
    have encoded : (s :: rest).map utf8 = [[]] :=
      join_inj (free_utf8 free) (by simp) (by simp) (by simp) (joined.trans rfl)
    obtain ⟨text, single, empty⟩ := List.map_eq_singleton_iff.mp encoded
    have blank : text = "" := utf8_inj (empty.trans rfl)
    rw [single, blank]
    exact .inr rfl

theorem scopes_inj {xs ys : List String} (freeX : ∀ s ∈ xs, ¬ Nul s) (freeY : ∀ s ∈ ys, ¬ Nul s)
    (someX : xs ≠ [""]) (someY : ys ≠ [""])
    (joined : [0].intercalate (xs.map utf8) = [0].intercalate (ys.map utf8)) : xs = ys := by
  by_cases noneX : xs = []
  · rw [noneX] at joined
    rcases no_scope freeY joined.symm with noneY | empty
    · rw [noneX, noneY]
    · exact absurd empty someY
  · by_cases noneY : ys = []
    · rw [noneY] at joined
      rcases no_scope freeX joined with none | empty
      · exact absurd none noneX
      · exact absurd empty someX
    · have encoded :=
        join_inj (free_utf8 freeX) (free_utf8 freeY) (by simpa using noneX) (by simpa using noneY) joined
      exact List.map_injective_iff.mpr (fun _ _ => utf8_inj) encoded

theorem clean_inj {c c' : Challenge} (timed : c.Timed) (timed' : c'.Timed) (clean : c.Clean)
    (clean' : c'.Clean) (same : challengeToSignBytes c = challengeToSignBytes c') :
    SameSigned c c' := by
  have free {text : String} (plain : ¬ Nul text) : 0 ∉ utf8 text := mt zero_mem_utf8.mp plain
  have freeCrypto {c : Challenge} (clean : c.Clean) : 0 ∉ (c.minCrypto.map utf8).getD [] := by
    cases crypto : c.minCrypto with
    | none => simp
    | some m => exact free (clean.minCrypto m crypto).2
  obtain ⟨ids, rest⟩ := same_bytes_iff.mp same
  simp only [front, back, List.append_assoc, List.cons_append] at rest
  obtain ⟨nonces, rest⟩ := cut_first (free clean.nonce) (free clean'.nonce) rest
  obtain ⟨issuers, rest⟩ := cut_first (free clean.issuer) (free clean'.issuer) rest
  obtain ⟨times, rest⟩ := List.append_inj rest ((length_times c).trans (length_times c').symm)
  obtain ⟨cryptos, joined⟩ := cut_first (freeCrypto clean) (freeCrypto clean') (List.cons.inj rest).2
  obtain ⟨issued, expires⟩ := times_inj timed timed' times
  refine ⟨ids, utf8_inj nonces, utf8_inj issuers, issued, expires, ?_, ?_⟩
  · cases crypto : c.minCrypto with
    | none =>
      cases crypto' : c'.minCrypto with
      | none => rfl
      | some m' =>
        rw [crypto, crypto'] at cryptos
        exact absurd cryptos.symm (utf8_ne_nil (clean'.minCrypto m' crypto').1)
    | some m =>
      cases crypto' : c'.minCrypto with
      | none =>
        rw [crypto, crypto'] at cryptos
        exact absurd cryptos (utf8_ne_nil (clean.minCrypto m crypto).1)
      | some m' =>
        rw [crypto, crypto'] at cryptos
        rw [utf8_inj cryptos]
  · exact scopes_inj clean.scopes clean'.scopes clean.someScope clean'.someScope joined

/-- The bytes of a challenge determine what it says, among all challenges, exactly when it is plain;
and among clean challenges they always do. -/
theorem challengeToSignBytes_determines {c : Challenge} (timed : c.Timed) :
    (c.Determined ↔ c.Plain) ∧
    (c.Clean → ∀ c' : Challenge, c'.Timed → c'.Clean →
    challengeToSignBytes c = challengeToSignBytes c' →
      SameSigned c c') :=
  ⟨⟨determined_plain timed, plain_determined timed⟩,
    fun clean _ timed' clean' same => clean_inj timed timed' clean clean' same⟩

/-! ### A challenge with two scopes -/

def StandIn.asking (requiredScopes : List String) : Challenge where
  id := Uuid.nil
  nonce := "nonce"
  issuer := "issuer"
  requiredScopes := requiredScopes
  issuedAt := 0
  expiresAt := 30 * DateTime.nanosPerSecond
  minCrypto := some "hybrid"

theorem StandIn.asking_timed (requiredScopes : List String) : (asking requiredScopes).Timed := by
  show (DateTime.min ≤ 0 ∧ 0 ≤ DateTime.max) ∧ DateTime.min ≤ 30 * DateTime.nanosPerSecond ∧
    30 * DateTime.nanosPerSecond ≤ DateTime.max
  decide

theorem challengeToSignBytes_determines_one : (StandIn.asking ["read"]).Determined := by
  refine (challengeToSignBytes_determines (StandIn.asking_timed ["read"])).1.mpr ⟨?_, ?_, ?_, ?_⟩
  · unfold Nul
    decide
  · unfold Nul
    decide
  · exact ⟨"hybrid", rfl, by decide, by unfold Nul; decide⟩
  · exact ⟨"read", rfl, by decide, by unfold Nul; decide⟩

/-- Two scopes have the bytes of one scope with the separator in it. -/
theorem challengeToSignBytes_shifted : ¬ ∀ c c' : Challenge, c.Timed → c'.Timed →
    challengeToSignBytes c = challengeToSignBytes c' → SameSigned c c' := by
  intro determined
  have same := determined (StandIn.asking ["read", "write"]) (StandIn.asking ["read\x00write"])
    (StandIn.asking_timed _) (StandIn.asking_timed _) (by decide)
  exact absurd same.requiredScopes (by decide)

end Challenge
end GrokingClawId.Core
