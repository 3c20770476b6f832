import BlockchainNode.Types
import Mathlib.Data.Nat.Digits

namespace BlockchainNode

def zeroPadded (width n : Nat) : String :=
  let digits := toString n
  ⟨List.replicate (width - digits.length) '0' ++ digits.toList⟩

def hexDigits (width n : Nat) : List Char :=
  (List.range width).reverse.map fun i => Nat.digitChar (n / 16 ^ i % 16)

def uuidHyphenated (id : Uuid) : String :=
  let h := hexDigits 32 id
  ⟨h.take 8 ++ ['-'] ++ (h.drop 8).take 4 ++ ['-'] ++ (h.drop 12).take 4 ++ ['-'] ++ (h.drop 16).take 4 ++ ['-'] ++
    h.drop 20⟩

def hashBytes (hash : Hash) : List Nat := (List.range 32).reverse.map fun i => hash / 256 ^ i % 256

def intoBytes (s : String) : List Nat := s.toList.flatMap fun c => (String.utf8EncodeChar c).map UInt8.toNat

def fromUtf8Lossy (bytes : List Nat) : String := ⟨bytes.map fun b => if b < 128 then Char.ofNat b else '�'⟩

inductive IntErrorKind where
  | empty
  | invalidDigit
  | posOverflow
  deriving DecidableEq, Repr

def IntErrorKind.description : IntErrorKind → String
  | .empty => "cannot parse integer from empty string"
  | .invalidDigit => "invalid digit found in string"
  | .posOverflow => "number too large to fit in target type"

def fromStrDigits (acc : Nat) : List Char → Except IntErrorKind Nat
  | [] => .ok acc
  | c :: cs =>
      if c.isDigit then
        let acc := acc * 10 + (c.toNat - 48)
        if acc < u64Size then fromStrDigits acc cs else .error .posOverflow
      else .error .invalidDigit

def u64FromStr (s : String) : Except IntErrorKind Nat :=
  match s.toList with
  | [] => .error .empty
  | ['+'] | ['-'] => .error .invalidDigit
  | '+' :: digits => fromStrDigits 0 digits
  | digits => fromStrDigits 0 digits

def hexTable (b : Nat) : Option Nat :=
  if 48 ≤ b ∧ b ≤ 57 then some (b - 48)
  else if 97 ≤ b ∧ b ≤ 102 then some (b - 87)
  else if 65 ≤ b ∧ b ≤ 70 then some (b - 55)
  else none

def hexValue (acc : Nat) : List Nat → Option Nat
  | [] => some acc
  | b :: bs => (hexTable b).bind fun d => hexValue (acc * 16 + d) bs

def parseHyphenated (s : List Nat) : Option Uuid :=
  if s.length = 36 ∧ s.get? 8 = some 45 ∧ s.get? 13 = some 45 ∧ s.get? 18 = some 45 ∧ s.get? 23 = some 45 then
    hexValue 0 (s.take 8 ++ (s.drop 9).take 4 ++ (s.drop 14).take 4 ++ (s.drop 19).take 4 ++ s.drop 24)
  else none

def uuidTryParse (s : List Nat) : Option Uuid :=
  if s.length = 32 then hexValue 0 s
  else if s.length = 36 then parseHyphenated s
  else if s.length = 38 then
    if s.head? = some 123 ∧ s.getLast? = some 125 then parseHyphenated (s.drop 1).dropLast else none
  else if s.length = 45 then
    if s.take 9 = intoBytes "urn:uuid:" then parseHyphenated (s.drop 9) else none
  else none

def uuidParseStr (s : String) : Option Uuid := uuidTryParse (intoBytes s)

section Decimal

def decimalValue (acc : Nat) (cs : List Char) : Nat := cs.foldl (fun a c => a * 10 + (c.toNat - 48)) acc

theorem digitChar_spec : ∀ d < 10, (Nat.digitChar d).isDigit = true ∧ (Nat.digitChar d).toNat = 48 + d := by
  decide

theorem isDigit_toNat {c : Char} (h : c.isDigit = true) : 48 ≤ c.toNat ∧ c.toNat < 58 := by
  simp only [Char.isDigit, Bool.and_eq_true, decide_eq_true_eq] at h
  exact ⟨h.1, Nat.lt_succ_of_le h.2⟩

theorem decimalValue_cons (acc : Nat) (c : Char) (cs : List Char) :
    decimalValue acc (c :: cs) = decimalValue (acc * 10 + (c.toNat - 48)) cs := rfl

theorem decimalValue_append (acc : Nat) (xs ys : List Char) :
    decimalValue acc (xs ++ ys) = decimalValue (decimalValue acc xs) ys := List.foldl_append _ _ _ _

theorem decimalValue_eq (acc : Nat) (cs : List Char) :
    decimalValue acc cs = acc * 10 ^ cs.length + decimalValue 0 cs := by
  induction cs generalizing acc with
  | nil => simp [decimalValue]
  | cons c cs ih =>
      simp only [decimalValue, List.foldl_cons, List.length_cons] at ih ⊢
      rw [ih, ih (0 * 10 + _), pow_succ]
      ring

theorem decimalValue_lt {cs : List Char} (h : ∀ c ∈ cs, c.isDigit = true) : decimalValue 0 cs < 10 ^ cs.length := by
  induction cs using List.reverseRecOn with
  | nil => simp [decimalValue]
  | append_singleton cs c ih =>
      have hc := isDigit_toNat (h c (by simp))
      have hcs := ih fun d hd => h d (by simp [hd])
      rw [decimalValue_append, List.length_append, List.length_singleton, pow_succ]
      simp only [decimalValue, List.foldl_cons, List.foldl_nil] at hcs ⊢
      omega

theorem decimalValue_replicate_zero (k : Nat) (cs : List Char) :
    decimalValue 0 (List.replicate k '0' ++ cs) = decimalValue 0 cs := by
  induction k with
  | zero => rfl
  | succ k ih => exact ih

theorem decimalValue_digits (L : List Nat) (h : ∀ d ∈ L, d < 10) :
    decimalValue 0 (L.reverse.map Nat.digitChar) = Nat.ofDigits 10 L := by
  induction L with
  | nil => rfl
  | cons d L ih =>
      rw [List.reverse_cons, List.map_append, decimalValue_append, ih fun e he => h e (by simp [he])]
      simp only [decimalValue, List.map_cons, List.map_nil, List.foldl_cons, List.foldl_nil, Nat.ofDigits_cons,
        (digitChar_spec d (h d (by simp))).2]
      omega

theorem toDigitsCore_eq (fuel n : Nat) (ds : List Char) (hn : 0 < n) (hf : n < fuel) :
    Nat.toDigitsCore 10 fuel n ds = (Nat.digits 10 n).reverse.map Nat.digitChar ++ ds := by
  induction fuel generalizing n ds with
  | zero => omega
  | succ fuel ih =>
      rw [Nat.toDigitsCore, Nat.digits_def' (by norm_num) hn]
      show (if n / 10 = 0 then _ else _) = _
      split_ifs with h
      · rw [h, Nat.digits_zero]; rfl
      · rw [ih (n / 10) _ (Nat.pos_of_ne_zero h) (by omega)]
        simp

theorem toString_toList (n : Nat) :
    (toString n).toList = if n = 0 then ['0'] else (Nat.digits 10 n).reverse.map Nat.digitChar := by
  split_ifs with h
  · subst h; rfl
  · show Nat.toDigitsCore 10 (n + 1) n [] = _
    rw [toDigitsCore_eq _ _ _ (Nat.pos_of_ne_zero h) (Nat.lt_succ_self n), List.append_nil]

theorem toString_isDigit (n : Nat) : ∀ c ∈ (toString n).toList, c.isDigit = true := by
  rw [toString_toList]
  split_ifs
  · simp
  · intro c hc
    obtain ⟨d, hd, rfl⟩ := List.mem_map.mp hc
    exact (digitChar_spec d (Nat.digits_lt_base (by norm_num) (List.mem_reverse.mp hd))).1

theorem decimalValue_toString (n : Nat) : decimalValue 0 (toString n).toList = n := by
  rw [toString_toList]
  split_ifs with h
  · subst h; rfl
  · rw [decimalValue_digits _ fun d hd => Nat.digits_lt_base (by norm_num) hd, Nat.ofDigits_digits]

theorem zeroPadded_isDigit (width n : Nat) : ∀ c ∈ (zeroPadded width n).toList, c.isDigit = true := by
  intro c hc
  rcases List.mem_append.mp hc with hc | hc
  · rw [List.eq_of_mem_replicate hc]; rfl
  · exact toString_isDigit n c hc

theorem decimalValue_zeroPadded (width n : Nat) : decimalValue 0 (zeroPadded width n).toList = n := by
  show decimalValue 0 (List.replicate _ '0' ++ (toString n).toList) = n
  rw [decimalValue_replicate_zero, decimalValue_toString]

theorem zeroPadded_length {width n : Nat} (hw : 0 < width) (hn : n < 10 ^ width) :
    (zeroPadded width n).toList.length = width := by
  show (List.replicate _ '0' ++ (toString n).toList).length = width
  rw [List.length_append, List.length_replicate]
  exact Nat.sub_add_cancel (Nat.repr_length n width hw hn)

theorem zeroPadded_ne_nil (width n : Nat) : (zeroPadded width n).toList ≠ [] := by
  refine List.append_ne_nil_of_right_ne_nil _ ?_
  rw [toString_toList]
  split_ifs with h0
  · simp
  · simpa using Nat.digits_ne_nil_iff_ne_zero.mpr h0

end Decimal

section Parse

theorem fromStrDigits_of_isDigit {cs : List Char} (h : ∀ c ∈ cs, c.isDigit = true) {acc : Nat}
    (hacc : acc < u64Size) :
    fromStrDigits acc cs = if decimalValue acc cs < u64Size then .ok (decimalValue acc cs) else .error .posOverflow := by
  induction cs generalizing acc with
  | nil => simp [fromStrDigits, decimalValue, hacc]
  | cons c cs ih =>
      rw [fromStrDigits, if_pos (h c (List.mem_cons_self c cs)), decimalValue_cons]
      dsimp only
      by_cases h₁ : acc * 10 + (c.toNat - 48) < u64Size
      · rw [if_pos h₁, ih (fun d hd => h d (List.mem_cons_of_mem c hd)) h₁]
      · have hge : acc * 10 + (c.toNat - 48) ≤ decimalValue (acc * 10 + (c.toNat - 48)) cs := by
          rw [decimalValue_eq]
          exact Nat.le_add_right_of_le (Nat.le_mul_of_pos_right _ (Nat.pos_pow_of_pos _ (by norm_num)))
        rw [if_neg h₁, if_neg fun h₂ => h₁ (Nat.lt_of_le_of_lt hge h₂)]

theorem u64FromStr_of_isDigit {s : String} (hne : s.toList ≠ []) (h : ∀ c ∈ s.toList, c.isDigit = true) :
    u64FromStr s = fromStrDigits 0 s.toList := by
  unfold u64FromStr
  match hs : s.toList, hne with
  | c :: cs, _ =>
      have hc := h c (hs ▸ List.mem_cons_self c cs)
      have hplus : c ≠ '+' := fun e => by subst e; exact absurd hc (by decide)
      have hminus : c ≠ '-' := fun e => by subst e; exact absurd hc (by decide)
      split <;> simp_all

theorem u64FromStr_zeroPadded (width n : Nat) (hn : n < u64Size) : u64FromStr (zeroPadded width n) = .ok n := by
  rw [u64FromStr_of_isDigit (zeroPadded_ne_nil width n) (zeroPadded_isDigit width n),
    fromStrDigits_of_isDigit (zeroPadded_isDigit width n) (by decide), decimalValue_zeroPadded, if_pos hn]

end Parse

section Order

theorem lex_of_decimalValue_lt :
    ∀ {xs ys : List Char}, xs.length = ys.length → (∀ c ∈ xs, c.isDigit = true) → (∀ c ∈ ys, c.isDigit = true) →
      decimalValue 0 xs < decimalValue 0 ys → List.Lex (· < ·) (xs.map Char.toNat) (ys.map Char.toNat)
  | [], [], _, _, _, h => absurd h (Nat.lt_irrefl _)
  | x :: xs, y :: ys, hl, hx, hy, h => by
      have hx₀ := isDigit_toNat (hx x (List.mem_cons_self x xs))
      have hy₀ := isDigit_toNat (hy y (List.mem_cons_self y ys))
      have hl' : xs.length = ys.length := Nat.succ.inj hl
      have hxs := decimalValue_lt fun c hc => hx c (List.mem_cons_of_mem x hc)
      have hys := decimalValue_lt fun c hc => hy c (List.mem_cons_of_mem y hc)
      rw [decimalValue_cons, decimalValue_cons, decimalValue_eq, decimalValue_eq (0 * 10 + _)] at h
      simp only [List.map_cons]
      rcases Nat.lt_trichotomy x.toNat y.toNat with hlt | heq | hgt
      · exact .rel hlt
      · rw [heq]
        refine .cons (lex_of_decimalValue_lt hl' (fun c hc => hx c (List.mem_cons_of_mem x hc))
          (fun c hc => hy c (List.mem_cons_of_mem y hc)) ?_)
        rw [heq, hl'] at h
        omega
      · exfalso
        rw [← hl'] at h hys
        have : (0 * 10 + (y.toNat - 48) + 1) * 10 ^ xs.length ≤ (0 * 10 + (x.toNat - 48)) * 10 ^ xs.length :=
          Nat.mul_le_mul_right _ (by omega)
        rw [Nat.add_mul, Nat.one_mul] at this
        omega

theorem lex_append_left {p xs ys : List Nat} (h : List.Lex (· < ·) xs ys) : List.Lex (· < ·) (p ++ xs) (p ++ ys) := by
  induction p with
  | nil => exact h
  | cons a p ih => exact .cons ih

theorem zeroPadded_lex {width a b : Nat} (hw : 0 < width) (hab : a < b) (hb : b < 10 ^ width) :
    List.Lex (· < ·) ((zeroPadded width a).toList.map Char.toNat) ((zeroPadded width b).toList.map Char.toNat) :=
  lex_of_decimalValue_lt (by rw [zeroPadded_length hw (hab.trans hb), zeroPadded_length hw hb])
    (zeroPadded_isDigit width a) (zeroPadded_isDigit width b)
    (by rw [decimalValue_zeroPadded, decimalValue_zeroPadded]; exact hab)

end Order

section FixedWidth

def baseDigits (base width n : Nat) : List Nat := (List.range width).reverse.map fun i => n / base ^ i % base

theorem baseDigits_succ (base width n : Nat) :
    baseDigits base (width + 1) n = n / base ^ width % base :: baseDigits base width n := by
  simp [baseDigits, List.range_succ]

theorem baseDigits_length (base width n : Nat) : (baseDigits base width n).length = width := by
  simp [baseDigits]

theorem baseDigits_mod {base width a b : Nat} (h : baseDigits base width a = baseDigits base width b) :
    a % base ^ width = b % base ^ width := by
  induction width with
  | zero => simp only [pow_zero, Nat.mod_one]
  | succ w ih =>
      rw [baseDigits_succ, baseDigits_succ, List.cons.injEq] at h
      rw [Nat.mod_pow_succ, Nat.mod_pow_succ, ih h.2, h.1]

theorem hashBytes_eq (hash : Hash) : hashBytes hash = baseDigits 256 32 hash := rfl

def addressBytes (address : Address) : List Nat := baseDigits 256 20 address

theorem baseDigits_foldl (base width n acc : Nat) :
    (baseDigits base width n).foldl (fun acc b => acc * base + b) acc = acc * base ^ width + n % base ^ width := by
  induction width generalizing acc with
  | zero => simp [baseDigits, Nat.mod_one]
  | succ w ih =>
      rw [baseDigits_succ, List.foldl_cons, ih, Nat.mod_pow_succ, pow_succ]
      ring

theorem hashBytes_injective {a b : Hash} (ha : a < 256 ^ 32) (hb : b < 256 ^ 32) (h : hashBytes a = hashBytes b) :
    a = b := by
  have := @baseDigits_mod 256 32 a b h
  rwa [Nat.mod_eq_of_lt ha, Nat.mod_eq_of_lt hb] at this

theorem hexDigits_eq (width n : Nat) : hexDigits width n = (baseDigits 16 width n).map Nat.digitChar := by
  simp [hexDigits, baseDigits]

theorem hexTable_digitChar : ∀ d < 16, hexTable (Nat.digitChar d).toNat = some d := by
  decide

theorem hexValue_baseDigits (width n acc : Nat) :
    hexValue acc ((baseDigits 16 width n).map fun d => (Nat.digitChar d).toNat) = some (acc * 16 ^ width + n % 16 ^ width) := by
  induction width generalizing acc with
  | zero => simp [baseDigits, hexValue, Nat.mod_one]
  | succ w ih =>
      rw [baseDigits_succ, List.map_cons, hexValue, hexTable_digitChar _ (Nat.mod_lt _ (by norm_num)), Option.some_bind,
        ih, Nat.mod_pow_succ]
      congr 1
      ring

end FixedWidth

section Bytes

theorem utf8EncodeChar_of_lt {c : Char} (h : c.toNat < 128) : (String.utf8EncodeChar c).map UInt8.toNat = [c.toNat] := by
  have hv : c.val ≤ 127 := by
    rw [UInt32.le_def, BitVec.le_def]
    exact Nat.le_of_lt_succ h
  simp only [String.utf8EncodeChar, hv, if_true, List.map_cons, List.map_nil, List.cons.injEq, and_true]
  simp only [UInt32.toUInt8, UInt8.toNat, Char.toNat, UInt32.toNat] at h ⊢
  simp only [Nat.toUInt8, UInt8.ofNat, BitVec.toNat_ofNat]
  omega

theorem intoBytes_of_lt {s : String} (h : ∀ c ∈ s.toList, c.toNat < 128) : intoBytes s = s.toList.map Char.toNat := by
  unfold intoBytes
  rw [List.flatMap_congr fun c hc => utf8EncodeChar_of_lt (h c hc)]
  induction s.toList <;> simp_all

theorem intoBytes_append (s t : String) : intoBytes (s ++ t) = intoBytes s ++ intoBytes t := by
  simp [intoBytes, String.toList, String.append, List.flatMap_append]

theorem isDigit_lt {c : Char} (h : c.isDigit = true) : c.toNat < 128 := by
  have := isDigit_toNat h
  omega

theorem fromUtf8Lossy_map_toNat {cs : List Char} (h : ∀ c ∈ cs, c.toNat < 128) :
    fromUtf8Lossy (cs.map Char.toNat) = ⟨cs⟩ := by
  simp only [fromUtf8Lossy, List.map_map]
  congr 1
  conv_rhs => rw [← List.map_id cs]
  exact List.map_congr_left fun c hc => by simp [h c hc, Char.ofNat_toNat]

end Bytes

section UuidText

theorem hyphenated_split {α : Type} {h s : List α} {x : α} (hlen : h.length = 32)
    (hs : s = h.take 8 ++ [x] ++ (h.drop 8).take 4 ++ [x] ++ (h.drop 12).take 4 ++ [x] ++ (h.drop 16).take 4 ++ [x] ++
      h.drop 20) :
    s.length = 36 ∧ s.get? 8 = some x ∧ s.get? 13 = some x ∧ s.get? 18 = some x ∧ s.get? 23 = some x ∧
      s.take 8 ++ (s.drop 9).take 4 ++ (s.drop 14).take 4 ++ (s.drop 19).take 4 ++ s.drop 24 = h := by
  have h8 : (h.take 8).length = 8 := by simp [hlen]
  have h4a : ((h.drop 8).take 4).length = 4 := by simp [hlen]
  have h4b : ((h.drop 12).take 4).length = 4 := by simp [hlen]
  have h4c : ((h.drop 16).take 4).length = 4 := by simp [hlen]
  have hgroups : h.take 8 ++ ((h.drop 8).take 4 ++ ((h.drop 12).take 4 ++ ((h.drop 16).take 4 ++ h.drop 20))) = h := by
    rw [← List.drop_drop 4 16, List.take_append_drop, ← List.drop_drop 4 12, List.take_append_drop,
      ← List.drop_drop 4 8, List.take_append_drop, List.take_append_drop]
  subst hs
  refine ⟨by simp [hlen], ?_, ?_, ?_, ?_, ?_⟩
  all_goals simp [List.getElem_append_right, h8, h4a, h4b, h4c, List.take_append_eq_append_take,
    List.drop_append_eq_append_drop, List.take_take, List.drop_drop, hlen, List.drop_eq_nil_of_le, hgroups]

theorem uuidHyphenated_toList (id : Uuid) :
    (uuidHyphenated id).toList =
      (hexDigits 32 id).take 8 ++ ['-'] ++ ((hexDigits 32 id).drop 8).take 4 ++ ['-'] ++
        ((hexDigits 32 id).drop 12).take 4 ++ ['-'] ++ ((hexDigits 32 id).drop 16).take 4 ++ ['-'] ++
        (hexDigits 32 id).drop 20 := rfl

theorem uuidHyphenated_ascii (id : Uuid) : ∀ c ∈ (uuidHyphenated id).toList, c.toNat < 128 := by
  have hhex : ∀ c ∈ hexDigits 32 id, c.toNat < 128 := by
    rw [hexDigits_eq]
    intro c hc
    obtain ⟨d, hd, rfl⟩ := List.mem_map.mp hc
    have hd16 : d < 16 := by
      obtain ⟨i, -, rfl⟩ := List.mem_map.mp hd
      exact Nat.mod_lt _ (by norm_num)
    exact (by decide : ∀ d < 16, (Nat.digitChar d).toNat < 128) d hd16
  intro c hc
  rw [uuidHyphenated_toList] at hc
  simp only [List.mem_append, List.mem_singleton] at hc
  rcases hc with ((((((((hc | rfl) | hc) | rfl) | hc) | rfl) | hc) | rfl) | hc)
  all_goals first
    | decide
    | exact hhex c (List.mem_of_mem_take hc)
    | exact hhex c (List.mem_of_mem_drop hc)
    | exact hhex c (List.mem_of_mem_drop (List.mem_of_mem_take hc))

theorem intoBytes_uuidHyphenated (id : Uuid) :
    intoBytes (uuidHyphenated id) =
      ((hexDigits 32 id).map Char.toNat).take 8 ++ [45] ++ (((hexDigits 32 id).map Char.toNat).drop 8).take 4 ++ [45] ++
        (((hexDigits 32 id).map Char.toNat).drop 12).take 4 ++ [45] ++
        (((hexDigits 32 id).map Char.toNat).drop 16).take 4 ++ [45] ++ ((hexDigits 32 id).map Char.toNat).drop 20 := by
  rw [intoBytes_of_lt (uuidHyphenated_ascii id), uuidHyphenated_toList]
  simp only [List.map_append, List.map_take, List.map_drop, List.map_cons, List.map_nil]
  rfl

theorem uuidTryParse_uuidHyphenated (id : Uuid) : uuidTryParse (intoBytes (uuidHyphenated id)) = some (id % 16 ^ 32) := by
  have hlen : ((hexDigits 32 id).map Char.toNat).length = 32 := by simp [hexDigits]
  obtain ⟨h36, h8, h13, h18, h23, hgroups⟩ := hyphenated_split hlen (intoBytes_uuidHyphenated id)
  rw [uuidTryParse, if_neg (by omega), if_pos h36, parseHyphenated, if_pos ⟨h36, h8, h13, h18, h23⟩, hgroups,
    hexDigits_eq, List.map_map]
  exact (hexValue_baseDigits 32 id 0).trans (by rw [Nat.zero_mul, Nat.zero_add])

theorem uuidParseStr_uuidHyphenated {id : Uuid} (h : id < 2 ^ 128) : uuidParseStr (uuidHyphenated id) = some id := by
  rw [uuidParseStr, uuidTryParse_uuidHyphenated, Nat.mod_eq_of_lt (by simpa using h)]

theorem uuidHyphenated_injective {a b : Uuid} (ha : a < 2 ^ 128) (hb : b < 2 ^ 128)
    (h : uuidHyphenated a = uuidHyphenated b) : a = b := by
  have := congrArg uuidParseStr h
  rwa [uuidParseStr_uuidHyphenated ha, uuidParseStr_uuidHyphenated hb, Option.some.injEq] at this

end UuidText

end BlockchainNode
