import BlockchainNode.Encoding
import BlockchainNode.ColumnFamily
import Mathlib.Data.List.Sort

namespace BlockchainNode

inductive BlockValue where
  | block (b : Block)
  | heightKey (key : List Nat)
  deriving DecidableEq

structure BlockStore where
  blocks : ColumnFamily BlockValue

variable (C : Codec)

namespace BlockStore

def heightKey (height : BlockHeight) : List Nat := intoBytes ("block_" ++ zeroPadded 16 height)

def hashKey (hash : Hash) : List Nat := 'h'.toNat :: hashBytes hash

def parseHeightKey (key : List Nat) : Except String BlockHeight :=
  let keyStr := (fromUtf8Lossy key).toList
  if "block_".toList.isPrefixOf keyStr then
    match u64FromStr ⟨keyStr.drop 6⟩ with
    | .ok height => .ok height
    | .error e => .error ("Failed to parse height from key: " ++ e.description)
  else .error "Invalid height key format"

def empty : BlockStore := ⟨ColumnFamily.empty⟩

def putBlock (bs : BlockStore) (block : Block) : BlockStore :=
  let key := heightKey block.header.height
  let blocks := bs.blocks.putCf key (.block block)
  ⟨blocks.putCf (hashKey (block.hash C)) (.heightKey key)⟩

def decodeBlock : Option BlockValue → Except String (Option Block)
  | some (.block b) => .ok (some b)
  | some (.heightKey _) => .error "Failed to deserialize block"
  | none => .ok none

def getBlock (bs : BlockStore) (height : BlockHeight) : Except String (Option Block) :=
  decodeBlock (bs.blocks.getCf (heightKey height))

def getBlockByHash (bs : BlockStore) (hash : Hash) : Except String (Option Block) :=
  match bs.blocks.getCf (hashKey hash) with
  | some (.heightKey key) => decodeBlock (bs.blocks.getCf key)
  | some (.block _) => .error "Failed to deserialize block"
  | none => .ok none

def hasBlock (bs : BlockStore) (height : BlockHeight) : Bool := (bs.blocks.getCf (heightKey height)).isSome

def blocksRangeLoop (bs : BlockStore) : List BlockHeight → List Block → Except String (List Block)
  | [], blocks => .ok blocks
  | height :: rest, blocks =>
      match bs.getBlock height with
      | .error e => .error e
      | .ok (some block) => blocksRangeLoop bs rest (blocks ++ [block])
      | .ok none => blocksRangeLoop bs rest blocks

def getBlocksRange (bs : BlockStore) (start «end» : BlockHeight) : Except String (List Block) :=
  bs.blocksRangeLoop (List.range' start («end» + 1 - start)) []

def latestBlockLoop : List (List Nat × BlockValue) → Except String (Option Block)
  | [] => .ok none
  | (key, value) :: rest =>
      if key.head? = some 'h'.toNat then latestBlockLoop rest
      else decodeBlock (some value)

def getLatestBlock (bs : BlockStore) : Except String (Option Block) := latestBlockLoop (bs.blocks.iteratorCf .end)

def countBlocks (bs : BlockStore) : Nat :=
  ((bs.blocks.iteratorCf .start).filter fun e => e.1.head? != some 'h'.toNat).length

def deleteBlock (bs : BlockStore) (height : BlockHeight) : Except String BlockStore :=
  match bs.getBlock height with
  | .error e => .error e
  | .ok (some block) => .ok ⟨(bs.blocks.deleteCf (hashKey (block.hash C))).deleteCf (heightKey height)⟩
  | .ok none => .ok ⟨bs.blocks.deleteCf (heightKey height)⟩

def getAllHeights (bs : BlockStore) : List BlockHeight :=
  let heights := (bs.blocks.iteratorCf .start).filterMap fun e =>
    if e.1.head? = some 'h'.toNat then none else (parseHeightKey e.1).toOption
  heights.insertionSort (· ≤ ·)

section Keys

theorem heightKey_eq (height : BlockHeight) :
    heightKey height = "block_".toList.map Char.toNat ++ (zeroPadded 16 height).toList.map Char.toNat := by
  rw [heightKey, intoBytes_append, intoBytes_of_lt (by decide),
    intoBytes_of_lt fun c hc => isDigit_lt (zeroPadded_isDigit 16 height c hc)]

theorem heightKey_head (height : BlockHeight) : (heightKey height).head? = some 'b'.toNat := by
  rw [heightKey_eq]; rfl

theorem heightKey_lt_hashKey (height : BlockHeight) (hash : Hash) : heightKey height < hashKey hash := by
  rw [heightKey_eq]
  exact List.Lex.rel (by decide)

theorem heightKey_lt {a b : BlockHeight} (hab : a < b) (hb : b < 10 ^ 16) : heightKey a < heightKey b := by
  rw [heightKey_eq, heightKey_eq]
  exact lex_append_left (zeroPadded_lex (by norm_num) hab hb)

theorem heightKey_injective : Function.Injective heightKey := by
  intro a b h
  rw [heightKey_eq, heightKey_eq] at h
  have hinj : Function.Injective Char.toNat := fun c d e => by rw [← Char.ofNat_toNat c, e, Char.ofNat_toNat]
  have hchars := List.map_injective_iff.mpr hinj (List.append_cancel_left h)
  rw [← decimalValue_zeroPadded 16 a, hchars, decimalValue_zeroPadded]

theorem parseHeightKey_heightKey {height : BlockHeight} (h : height < u64Size) :
    parseHeightKey (heightKey height) = .ok height := by
  have hascii : ∀ c ∈ "block_".toList ++ (zeroPadded 16 height).toList, c.toNat < 128 :=
    List.forall_mem_append.mpr ⟨by decide, fun c hc => isDigit_lt (zeroPadded_isDigit 16 height c hc)⟩
  rw [parseHeightKey, heightKey_eq, ← List.map_append, fromUtf8Lossy_map_toNat hascii]
  dsimp only [String.toList]
  rw [if_pos (List.isPrefixOf_iff_prefix.mpr (List.prefix_append _ _)),
    List.drop_left' (show (['b', 'l', 'o', 'c', 'k', '_'] : List Char).length = 6 from rfl)]
  simp only [show (⟨(zeroPadded 16 height).data⟩ : String) = zeroPadded 16 height from rfl,
    u64FromStr_zeroPadded 16 height h]

end Keys

theorem latestBlockLoop_eq (l : List (List Nat × BlockValue)) :
    latestBlockLoop l = decodeBlock ((l.find? fun e => e.1.head? != some 'h'.toNat).map Prod.snd) := by
  induction l with
  | nil => rfl
  | cons e rest ih =>
      obtain ⟨key, value⟩ := e
      by_cases h : key.head? = some 'h'.toNat
      · rw [latestBlockLoop, if_pos h, ih, List.find?_cons, h, bne_self_eq_false]
      · rw [latestBlockLoop, if_neg h, List.find?_cons, bne_iff_ne.mpr h]
        rfl

structure WellFormed (bs : BlockStore) : Prop where
  heights : ∀ e ∈ bs.blocks.entries, e.1.head? ≠ some 'h'.toNat →
    ∃ b : Block, e = (heightKey b.header.height, .block b) ∧ b.header.height < u64Size

inductive Reachable : BlockStore → Prop where
  | empty : Reachable empty
  | putBlock {bs : BlockStore} {block : Block} : Reachable bs → block.header.height < u64Size →
      Reachable (bs.putBlock C block)
  | deleteBlock {bs bs' : BlockStore} {height : BlockHeight} : Reachable bs → bs.deleteBlock C height = .ok bs' →
      Reachable bs'

namespace WellFormed

variable {C} {bs : BlockStore}

theorem empty : WellFormed BlockStore.empty := ⟨fun _ h => nomatch h⟩

theorem putBlock (hwf : bs.WellFormed) {block : Block} (hb : block.header.height < u64Size) :
    (bs.putBlock C block).WellFormed := by
  refine ⟨fun e he hh => ?_⟩
  rcases ColumnFamily.mem_putCf.mp he with rfl | ⟨he, -⟩
  · exact absurd rfl hh
  · rcases ColumnFamily.mem_putCf.mp he with rfl | ⟨he, -⟩
    · exact ⟨block, rfl, hb⟩
    · exact hwf.heights e he hh

theorem deleteCf (hwf : bs.WellFormed) (key : List Nat) : (⟨bs.blocks.deleteCf key⟩ : BlockStore).WellFormed :=
  ⟨fun e he hh => hwf.heights e (ColumnFamily.mem_deleteCf.mp he).1 hh⟩

theorem deleteBlock (hwf : bs.WellFormed) {height : BlockHeight} {bs' : BlockStore}
    (h : bs.deleteBlock C height = .ok bs') : bs'.WellFormed := by
  unfold BlockStore.deleteBlock at h
  split at h
  · cases h
  · cases h
    exact (hwf.deleteCf _).deleteCf _
  · cases h
    exact hwf.deleteCf _

end WellFormed

theorem Reachable.wellFormed {C : Codec} {bs : BlockStore} (h : Reachable C bs) : bs.WellFormed := by
  induction h with
  | empty => exact WellFormed.empty
  | putBlock _ hb ih => exact ih.putBlock hb
  | deleteBlock _ hd ih => exact ih.deleteBlock hd

section Queries

variable {bs : BlockStore}

theorem hasBlock_iff {height : BlockHeight} :
    bs.hasBlock height = true ↔ ∃ value, (heightKey height, value) ∈ bs.blocks.entries := by
  simp only [hasBlock, Option.isSome_iff_exists, ColumnFamily.getCf_eq_some]

theorem getBlock_putBlock (block : Block) (height : BlockHeight) :
    (bs.putBlock C block).getBlock height =
      if height = block.header.height then .ok (some block) else bs.getBlock height := by
  have hhash : heightKey height ≠ hashKey (block.hash C) := ne_of_lt (heightKey_lt_hashKey _ _)
  simp only [getBlock, putBlock, ColumnFamily.getCf_putCf, if_neg hhash, heightKey_injective.eq_iff]
  split_ifs <;> rfl

theorem blocksRangeLoop_ok {f : BlockHeight → Option Block} :
    ∀ {heights : List BlockHeight}, (∀ height ∈ heights, bs.getBlock height = .ok (f height)) →
      ∀ blocks, bs.blocksRangeLoop heights blocks = .ok (blocks ++ heights.filterMap f)
  | [], _, blocks => by simp [blocksRangeLoop]
  | height :: rest, hf, blocks => by
      have ih := blocksRangeLoop_ok fun h hh => hf h (List.mem_cons_of_mem _ hh)
      rw [blocksRangeLoop, hf height (List.mem_cons_self _ _), List.filterMap_cons]
      cases f height with
      | none => exact ih blocks
      | some block => exact (ih _).trans (by simp)

theorem getBlocksRange_ok {f : BlockHeight → Option Block} {start «end» : BlockHeight}
    (hf : ∀ height, start ≤ height → height ≤ «end» → bs.getBlock height = .ok (f height)) :
    bs.getBlocksRange start «end» = .ok ((List.range' start («end» + 1 - start)).filterMap f) :=
  blocksRangeLoop_ok (fun height hh => by
    obtain ⟨h₁, h₂⟩ := List.mem_range'_1.mp hh
    exact hf height h₁ (by dsimp only [BlockHeight] at *; omega)) []

theorem WellFormed.stored (hwf : bs.WellFormed) {height : BlockHeight} (h : bs.hasBlock height = true) :
    ∃ b : Block, (heightKey height, .block b) ∈ bs.blocks.entries ∧ b.header.height = height ∧ height < u64Size := by
  obtain ⟨value, hv⟩ := hasBlock_iff.mp h
  obtain ⟨b, he, hb⟩ := hwf.heights _ hv (by rw [heightKey_head]; decide)
  obtain ⟨hk, rfl⟩ := Prod.mk.inj he
  have hheight := heightKey_injective hk
  exact ⟨b, hv, hheight.symm, hheight ▸ hb⟩

theorem getLatestBlock_greatest (hwf : bs.WellFormed) :
    (bs.getLatestBlock = .ok none ∧ ∀ height, bs.hasBlock height = false) ∨
    ∃ b : Block, bs.getLatestBlock = .ok (some b) ∧ bs.getBlock b.header.height = .ok (some b) ∧
      ∀ height, bs.hasBlock height = true → heightKey height ≤ heightKey b.header.height := by
  rw [getLatestBlock, ColumnFamily.iteratorCf, latestBlockLoop_eq]
  cases hf : bs.blocks.entries.reverse.find? (fun e => e.1.head? != some 'h'.toNat) with
  | none =>
      refine .inl ⟨rfl, fun height => Bool.eq_false_iff.mpr fun h => ?_⟩
      obtain ⟨value, hv⟩ := hasBlock_iff.mp h
      have := List.find?_eq_none.mp hf _ (List.mem_reverse.mpr hv)
      simp [heightKey_head] at this
  | some e =>
      obtain ⟨he, hp, hmax⟩ := ColumnFamily.find?_reverse_greatest bs.blocks.sorted hf
      obtain ⟨b, rfl, -⟩ := hwf.heights e he (by simpa using hp)
      refine .inr ⟨b, rfl, ?_, fun height h => ?_⟩
      · rw [getBlock, ColumnFamily.getCf_eq_some.mpr he]; rfl
      · obtain ⟨value, hv⟩ := hasBlock_iff.mp h
        exact hmax _ hv (by simp [heightKey_head])

theorem getLatestBlock_greatest_height (hwf : bs.WellFormed)
    (hsmall : ∀ height, bs.hasBlock height = true → height < 10 ^ 16) {b : Block}
    (hb : bs.getLatestBlock = .ok (some b)) :
    ∀ height, bs.hasBlock height = true → height ≤ b.header.height := by
  rcases getLatestBlock_greatest hwf with ⟨h, -⟩ | ⟨b', h, -, hmax⟩
  · rw [h] at hb; cases hb
  · rw [h] at hb
    cases hb
    intro height hh
    exact not_lt.mp fun hlt => not_le.mpr (heightKey_lt hlt (hsmall _ hh)) (hmax height hh)

theorem WellFormed.heightKey_of_parse (hwf : bs.WellFormed) {e : List Nat × BlockValue} (he : e ∈ bs.blocks.entries)
    {height : BlockHeight}
    (hf : (if e.1.head? = some 'h'.toNat then none else (parseHeightKey e.1).toOption) = some height) :
    e.1 = heightKey height := by
  split_ifs at hf with hh
  obtain ⟨b, rfl, hb⟩ := hwf.heights e he hh
  rw [parseHeightKey_heightKey hb] at hf
  cases hf
  rfl

theorem WellFormed.mem_getAllHeights (hwf : bs.WellFormed) {height : BlockHeight} :
    height ∈ bs.getAllHeights ↔ bs.hasBlock height = true := by
  rw [getAllHeights, (List.perm_insertionSort _ _).mem_iff, List.mem_filterMap]
  constructor
  · rintro ⟨⟨key, value⟩, he, hf⟩
    obtain rfl := hwf.heightKey_of_parse he hf
    exact hasBlock_iff.mpr ⟨value, he⟩
  · intro h
    obtain ⟨b, hb, -, hlt⟩ := hwf.stored h
    refine ⟨_, hb, ?_⟩
    rw [if_neg (by rw [heightKey_head]; decide), parseHeightKey_heightKey hlt]
    rfl

theorem WellFormed.getAllHeights_sorted (hwf : bs.WellFormed) : bs.getAllHeights.Sorted (· < ·) := by
  refine (List.sorted_insertionSort _ _).lt_of_le ((List.perm_insertionSort _ _).nodup_iff.mpr ?_)
  exact ColumnFamily.nodup_filterMap_of_sorted bs.blocks.sorted fun e he e' he' height hf hf' => by
    rw [hwf.heightKey_of_parse he hf, hwf.heightKey_of_parse he' hf']

end Queries

theorem height_key_round_trip :
    (∀ height, height < u64Size → parseHeightKey (heightKey height) = .ok height) ∧
    ∀ bs : BlockStore, Reachable C bs →
      bs.getAllHeights.Sorted (· < ·) ∧ ∀ height, height ∈ bs.getAllHeights ↔ bs.hasBlock height = true :=
  ⟨fun _ h => parseHeightKey_heightKey h,
    fun _ h => ⟨h.wellFormed.getAllHeights_sorted, fun _ => h.wellFormed.mem_getAllHeights⟩⟩

def sixteenDigitBlock : Block := sampleBlock "a" 9999999999999999 1

def seventeenDigitBlock : Block := sampleBlock "a" 10000000000000000 2

def sixteenDigitStore : BlockStore :=
  (empty.putBlock sampleCodec sixteenDigitBlock).putBlock sampleCodec seventeenDigitBlock

theorem latest_block_misses_seventeen_digits :
    heightKey 10000000000000000 < heightKey 9999999999999999 ∧
    sixteenDigitStore.hasBlock 10000000000000000 = true ∧
    sixteenDigitStore.getLatestBlock = .ok (some sixteenDigitBlock) := by
  decide

end BlockStore

end BlockchainNode
