import NNRt.Model.LiteGraph
import NNRt.Executor.State
import NNRt.Lib.Concat
import NNRt.Lib.Decimal
import NNRt.Lib.WhileLoop

/-!
# The identity of a model

The scheduling service knows a model by a hash of numbers and names, written one after the
other: of a lite graph its sizes and the names of its outer nodes, of a cache the three
checksums of its record.

- `getNodeIndices_ends` / `getNodeIndices_selects`: the loops over the outer nodes end, with
  the nodes at `selectedPositions`, which are pairwise different.
- `getOnlineModelID_ends` / `getNNRtModelIDFromCache_of_reads`: the texts that are hashed.
- `modelKeys_injective_iff`: **a text stands for one model exactly where its parts do not run
  together with those of another**.
-/

namespace NNRt

open Concat (RunsTogether)

/-! ## The outer nodes -/

/-- `EXTRACT_NODE_LAYER`. -/
def extractNodeLayer : UInt64 := 3

/-- A lite graph in memory: its lists have at most `max_size()` elements, of four bytes in
the index lists and of eight in the two others. -/
structure HeldGraph extends LiteGraph where
  inputs_lt : inputIndices.length < 2 ^ 61
  outputs_lt : outputIndices.length < 2 ^ 61
  tensors_lt : allTensors.length < 2 ^ 60
  nodes_lt : allNodes.length < 2 ^ 60

/-- The index of a loop of `GetNodeIndices`, and `nodes`. -/
structure NodeLoop where
  index : UInt64
  nodes : List Node

/-- `nodes.emplace_back(liteGraph->all_nodes_[index])`, and the step to the next index. -/
def appendNode (g : LiteGraph) (next : UInt64 → UInt64) (s : NodeLoop) : Except Fault NodeLoop :=
  match g.allNodes[s.index.toNat]? with
  | some node => .ok ⟨next s.index, s.nodes ++ [node]⟩
  | none => .error .outOfBounds

/-- `GetNodeIndices`, each loop with a bound on its rounds. -/
def getNodeIndices (fuel : Nat) (g : LiteGraph) (layer : UInt64) :
    Option (Except Fault (List Node)) :=
  let inputTensorSize := UInt64.ofNat g.inputIndices.length
  let outputTensorSize := UInt64.ofNat g.outputIndices.length
  let allnodeSize := UInt64.ofNat g.allNodes.length
  if (inputTensorSize + outputTensorSize) * layer ≥ allnodeSize then some (.ok g.allNodes)
  else
    match WhileLoop.run (fun s => decide (s.index < inputTensorSize * layer))
        (appendNode g (· + 1)) fuel ⟨0, []⟩ with
    | some (.ok s) =>
      (WhileLoop.run (fun s => decide (s.index ≥ allnodeSize - outputTensorSize * layer))
        (appendNode g (· - 1)) fuel ⟨allnodeSize - 1, s.nodes⟩).map (Except.map NodeLoop.nodes)
    | some (.error fault) => some (.error fault)
    | none => none

/-- The positions of the outer nodes: all, or the first ones and, from the last one on, the
last ones. -/
def LiteGraph.selectedPositions (g : LiteGraph) (layer : Nat) : List Nat :=
  let n := g.allNodes.length
  if n ≤ (g.inputIndices.length + g.outputIndices.length) * layer then List.range n
  else
    List.range (g.inputIndices.length * layer)
      ++ (List.range' (n - g.outputIndices.length * layer)
          (g.outputIndices.length * layer)).reverse

/-- The outer nodes. -/
def LiteGraph.selectedNodes (g : LiteGraph) (layer : Nat) : List Node :=
  (g.selectedPositions layer).filterMap (g.allNodes[·]?)

section Loops

variable {g : LiteGraph}

theorem appendNode_of_lt {next : UInt64 → UInt64} {s : NodeLoop}
    (h : s.index.toNat < g.allNodes.length) :
    appendNode g next s = .ok ⟨next s.index, s.nodes ++ [g.allNodes[s.index.toNat]]⟩ := by
  unfold appendNode
  rw [List.getElem?_eq_getElem h]

/-- The loop over the first nodes, from any of them on. -/
theorem upLoop_ends {bound : UInt64} (hbound : bound.toNat ≤ g.allNodes.length) (m : Nat)
    {index : UInt64} (nodes : List Node) (hleft : index.toNat + m = bound.toNat) :
    ∃ last, WhileLoop.Ends (fun s : NodeLoop => decide (s.index < bound))
      (appendNode g (· + 1)) ⟨index, nodes⟩
      (.ok ⟨last, nodes ++ (List.range' index.toNat m).filterMap (g.allNodes[·]?)⟩) := by
  induction m generalizing index nodes with
  | zero =>
    refine ⟨index, ?_⟩
    have hguard : ¬ index < bound := by
      rw [UInt64.lt_iff_toNat_lt]
      omega
    have hends := @WhileLoop.ends_of_guard _ _ (fun s : NodeLoop => decide (s.index < bound))
      (appendNode g (· + 1)) ⟨index, nodes⟩ (decide_eq_false hguard)
    simpa using hends
  | succ m ih =>
    have hguard : index < bound := by
      rw [UInt64.lt_iff_toNat_lt]
      omega
    have hlt : index.toNat < g.allNodes.length := by omega
    have hnext : (index + 1).toNat = index.toNat + 1 := by
      have hmax := bound.toNat_lt
      rw [UInt64.toNat_add, UInt64.toNat_one]
      omega
    obtain ⟨last, hends⟩ := @ih (index + 1) (nodes ++ [g.allNodes[index.toNat]]) (by omega)
    refine ⟨last, WhileLoop.Ends.round (decide_eq_true hguard)
      (appendNode_of_lt (s := ⟨index, nodes⟩) hlt) ?_⟩
    rw [List.range'_succ, List.filterMap_cons, List.getElem?_eq_getElem hlt]
    rw [hnext, List.append_assoc] at hends
    exact hends

/-- The loop over the last nodes, from any of them down. The index does not pass zero: the
loop stops above a node that is not one of them. -/
theorem downLoop_ends {low : UInt64} (hlow : 0 < low.toNat) (m : Nat) {index : UInt64}
    (nodes : List Node) (hindex : index.toNat < g.allNodes.length)
    (hleft : index.toNat + 1 = low.toNat + m) :
    ∃ last, WhileLoop.Ends (fun s : NodeLoop => decide (s.index ≥ low))
      (appendNode g (· - 1)) ⟨index, nodes⟩
      (.ok ⟨last, nodes ++ (List.range' low.toNat m).reverse.filterMap (g.allNodes[·]?)⟩) := by
  induction m generalizing index nodes with
  | zero =>
    refine ⟨index, ?_⟩
    have hguard : ¬ index ≥ low := by
      show ¬ low ≤ index
      rw [UInt64.le_iff_toNat_le]
      omega
    have hends := @WhileLoop.ends_of_guard _ _ (fun s : NodeLoop => decide (s.index ≥ low))
      (appendNode g (· - 1)) ⟨index, nodes⟩ (decide_eq_false hguard)
    simpa using hends
  | succ m ih =>
    have hguard : index ≥ low := by
      show low ≤ index
      rw [UInt64.le_iff_toNat_le]
      omega
    have hone : (1 : UInt64) ≤ index := by
      rw [UInt64.le_iff_toNat_le, UInt64.toNat_one]
      omega
    have hnext : (index - 1).toNat = index.toNat - 1 := by
      rw [UInt64.toNat_sub_of_le _ _ hone, UInt64.toNat_one]
    obtain ⟨last, hends⟩ := @ih (index - 1) (nodes ++ [g.allNodes[index.toNat]]) (by omega)
      (by omega)
    refine ⟨last, WhileLoop.Ends.round (decide_eq_true hguard)
      (appendNode_of_lt (s := ⟨index, nodes⟩) hindex) ?_⟩
    have hlast : low.toNat + m = index.toNat := by omega
    rw [List.range'_1_concat, List.reverse_append, List.reverse_singleton, hlast,
      List.singleton_append, List.filterMap_cons, List.getElem?_eq_getElem hindex]
    rw [List.append_assoc] at hends
    exact hends

/-- The nodes at positions one after the other. -/
theorem filterMap_range'_getElem? (nodes : List Node) (start m : Nat) :
    (List.range' start m).filterMap (nodes[·]?) = (nodes.drop start).take m := by
  induction m generalizing start with
  | zero => rfl
  | succ m ih =>
    rw [List.range'_succ, List.filterMap_cons, ih]
    by_cases hlt : start < nodes.length
    · rw [List.getElem?_eq_getElem hlt, List.drop_eq_getElem_cons hlt, List.take_succ_cons]
    · rw [List.getElem?_eq_none (by omega), List.drop_eq_nil_of_le (by omega),
        List.drop_eq_nil_of_le (by omega), List.take_nil, List.take_nil]

theorem filterMap_range_getElem? (nodes : List Node) (m : Nat) :
    (List.range m).filterMap (nodes[·]?) = nodes.take m := by
  rw [List.range_eq_range', filterMap_range'_getElem?, List.drop_zero]

/-- At positions that the list has, there is a node each. -/
theorem forall₂_filterMap_getElem? {nodes : List Node} {positions : List Nat}
    (h : ∀ position ∈ positions, position < nodes.length) :
    List.Forall₂ (fun position node => nodes[position]? = some node) positions
      (positions.filterMap (nodes[·]?)) := by
  induction positions with
  | nil => exact .nil
  | cons position positions ih =>
    obtain ⟨hlt, hrest⟩ := List.forall_mem_cons.mp h
    rw [List.filterMap_cons, List.getElem?_eq_getElem hlt]
    exact .cons (List.getElem?_eq_getElem hlt) (ih hrest)

theorem toNat_ofNat_mul {a : Nat} {layer : UInt64} (h : a * layer.toNat < 2 ^ 64) :
    (UInt64.ofNat a * layer).toNat = a * layer.toNat := by
  rw [UInt64.toNat_mul, UInt64.toNat_ofNat', Nat.mod_mul_mod, Nat.mod_eq_of_lt h]

theorem toNat_sizeProduct {a b : Nat} {layer : UInt64} (h : (a + b) * layer.toNat < 2 ^ 64) :
    ((UInt64.ofNat a + UInt64.ofNat b) * layer).toNat = (a + b) * layer.toNat := by
  rw [← UInt64.ofNat_add, toNat_ofNat_mul h]

/-- **Both loops end**, with the outer nodes, where the number of nodes to take does not
overflow. -/
theorem getNodeIndices_ends {layer : UInt64} (hnodes : g.allNodes.length < 2 ^ 64)
    (hsum : (g.inputIndices.length + g.outputIndices.length) * layer.toNat < 2 ^ 64) :
    ∃ rounds, ∀ fuel, rounds ≤ fuel →
      getNodeIndices fuel g layer = some (.ok (g.selectedNodes layer.toNat)) := by
  have hproduct := toNat_sizeProduct hsum
  have hsplit := Nat.add_mul g.inputIndices.length g.outputIndices.length layer.toNat
  have hinputs : (UInt64.ofNat g.inputIndices.length * layer).toNat
      = g.inputIndices.length * layer.toNat := toNat_ofNat_mul (by omega)
  have houtputs : (UInt64.ofNat g.outputIndices.length * layer).toNat
      = g.outputIndices.length * layer.toNat := toNat_ofNat_mul (by omega)
  have hsize : (UInt64.ofNat g.allNodes.length).toNat = g.allNodes.length := by
    rw [UInt64.toNat_ofNat', Nat.mod_eq_of_lt hnodes]
  unfold getNodeIndices LiteGraph.selectedNodes LiteGraph.selectedPositions
  dsimp only
  by_cases hall : g.allNodes.length
      ≤ (g.inputIndices.length + g.outputIndices.length) * layer.toNat
  · have hguard : (UInt64.ofNat g.inputIndices.length + UInt64.ofNat g.outputIndices.length)
        * layer ≥ UInt64.ofNat g.allNodes.length := by
      show UInt64.ofNat g.allNodes.length ≤ _
      rw [UInt64.le_iff_toNat_le, hproduct, hsize]
      exact hall
    refine ⟨0, fun fuel _ => ?_⟩
    rw [if_pos hguard, if_pos hall, filterMap_range_getElem?, List.take_length]
  · have hguard : ¬ (UInt64.ofNat g.inputIndices.length + UInt64.ofNat g.outputIndices.length)
        * layer ≥ UInt64.ofNat g.allNodes.length := by
      show ¬ UInt64.ofNat g.allNodes.length ≤ _
      rw [UInt64.le_iff_toNat_le, hproduct, hsize]
      exact hall
    -- The last nodes begin behind the first ones, so at no position below one.
    have hlow : (UInt64.ofNat g.allNodes.length - UInt64.ofNat g.outputIndices.length * layer).toNat
        = g.allNodes.length - g.outputIndices.length * layer.toNat := by
      rw [UInt64.toNat_sub_of_le, hsize, houtputs]
      rw [UInt64.le_iff_toNat_le, hsize, houtputs]
      omega
    have hlast : (UInt64.ofNat g.allNodes.length - 1).toNat = g.allNodes.length - 1 := by
      rw [UInt64.toNat_sub_of_le, hsize, UInt64.toNat_one]
      rw [UInt64.le_iff_toNat_le, hsize, UInt64.toNat_one]
      omega
    obtain ⟨i, up, hup⟩ := @upLoop_ends g (UInt64.ofNat g.inputIndices.length * layer)
      (by omega) (g.inputIndices.length * layer.toNat) 0 [] (by rw [hinputs]; exact Nat.zero_add _)
    obtain ⟨j, down, hdown⟩ := @downLoop_ends g
      (UInt64.ofNat g.allNodes.length - UInt64.ofNat g.outputIndices.length * layer)
      (by omega) (g.outputIndices.length * layer.toNat) (UInt64.ofNat g.allNodes.length - 1)
      ((List.range' 0 (g.inputIndices.length * layer.toNat)).filterMap (g.allNodes[·]?))
      (by omega) (by omega)
    refine ⟨max up down, fun fuel hfuel => ?_⟩
    have hup' := hup fuel (by omega)
    rw [List.nil_append] at hup'
    rw [if_neg hguard, if_neg hall, hup']
    dsimp only
    rw [UInt64.toNat_zero, hdown fuel (by omega), hlow, List.filterMap_append,
      List.range_eq_range']
    rfl

end Loops

namespace LiteGraph

variable (g : LiteGraph) (layer : Nat)

/-- Where not all nodes are taken, the first and the last ones do not meet. -/
theorem selectedPositions_lt : ∀ position ∈ g.selectedPositions layer,
    position < g.allNodes.length := by
  have hsplit := Nat.add_mul g.inputIndices.length g.outputIndices.length layer
  intro position hmem
  unfold selectedPositions at hmem
  dsimp only at hmem
  split at hmem
  · exact List.mem_range.mp hmem
  · rcases List.mem_append.mp hmem with hmem | hmem
    · have hlt := List.mem_range.mp hmem
      omega
    · have hrange := List.mem_range'_1.mp (List.mem_reverse.mp hmem)
      omega

theorem selectedPositions_nodup : (g.selectedPositions layer).Nodup := by
  have hsplit := Nat.add_mul g.inputIndices.length g.outputIndices.length layer
  unfold selectedPositions
  dsimp only
  split
  · exact List.nodup_range
  · refine List.nodup_append'.mpr ⟨List.nodup_range,
      List.nodup_reverse.mpr List.nodup_range', fun position hfirst hlast => ?_⟩
    have hlt := List.mem_range.mp hfirst
    have hrange := List.mem_range'_1.mp (List.mem_reverse.mp hlast)
    omega

/-- The outer nodes, as parts of the list of nodes. -/
theorem selectedNodes_eq :
    g.selectedNodes layer =
      if g.allNodes.length ≤ (g.inputIndices.length + g.outputIndices.length) * layer
      then g.allNodes
      else g.allNodes.take (g.inputIndices.length * layer)
        ++ (g.allNodes.drop (g.allNodes.length - g.outputIndices.length * layer)).reverse := by
  have hsplit := Nat.add_mul g.inputIndices.length g.outputIndices.length layer
  unfold selectedNodes selectedPositions
  dsimp only
  split
  · rw [filterMap_range_getElem?, List.take_length]
  · have hlength : (g.allNodes.drop
        (g.allNodes.length - g.outputIndices.length * layer)).length
          ≤ g.outputIndices.length * layer := by
      rw [List.length_drop]
      omega
    rw [List.filterMap_append, filterMap_range_getElem?, List.filterMap_reverse,
      filterMap_range'_getElem?, List.take_of_length_le hlength]

end LiteGraph

/-- **The outer nodes**: both loops end without having read past the nodes, with the nodes at
pairwise different positions: all nodes, or the first ones and, from the last one on, the
last ones. -/
theorem getNodeIndices_selects (g : LiteGraph) (layer : UInt64)
    (hnodes : g.allNodes.length < 2 ^ 64)
    (hsum : (g.inputIndices.length + g.outputIndices.length) * layer.toNat < 2 ^ 64) :
    (∃ rounds, ∀ fuel, rounds ≤ fuel →
      getNodeIndices fuel g layer = some (.ok (g.selectedNodes layer.toNat))) ∧
    List.Forall₂ (fun position node => g.allNodes[position]? = some node)
      (g.selectedPositions layer.toNat) (g.selectedNodes layer.toNat) ∧
    (∀ position ∈ g.selectedPositions layer.toNat, position < g.allNodes.length) ∧
    (g.selectedPositions layer.toNat).Nodup ∧
    g.selectedNodes layer.toNat =
      if g.allNodes.length ≤ (g.inputIndices.length + g.outputIndices.length) * layer.toNat
      then g.allNodes
      else g.allNodes.take (g.inputIndices.length * layer.toNat)
        ++ (g.allNodes.drop (g.allNodes.length
          - g.outputIndices.length * layer.toNat)).reverse :=
  ⟨getNodeIndices_ends hnodes hsum, forall₂_filterMap_getElem? (g.selectedPositions_lt _),
    g.selectedPositions_lt _, g.selectedPositions_nodup _, g.selectedNodes_eq _⟩

/-- One input, one output and five nodes. -/
def fiveNodes : LiteGraph where
  name := "NNR_Model"
  inputIndices := [0]
  outputIndices := [5]
  allTensors := (List.range 6).map fun _ => some ⟨cString [], .float32, [1], some .nhwc, [], []⟩
  allNodes := ["first", "second", "third", "fourth", "fifth"].mapIdx fun i name =>
    ⟨name, .none, [i, i], [i + 1], .addFusion .noActivation⟩
  subGraphs := [⟨"NNRt_SubGraph", [0], [5], List.range 5⟩]

/-- Two layers of them are four nodes. -/
theorem getNodeIndices_selects_fiveNodes :
    (∃ rounds, ∀ fuel, rounds ≤ fuel →
      getNodeIndices fuel fiveNodes 2 = some (.ok (fiveNodes.selectedNodes 2))) ∧
    (fiveNodes.selectedNodes 2).map Node.name = ["first", "second", "fifth", "fourth"] :=
  ⟨(getNodeIndices_selects fiveNodes 2 (by decide) (by decide)).1, rfl⟩

/-! ## The key of a graph -/

/-- `GetOnlineModelID` of a graph: the text it makes, and its hash. -/
def getOnlineModelID (hash : String → UInt64) (fuel : Nat) (g : LiteGraph) :
    Option (Except Fault UInt64) :=
  let onlineModelId := "" ++ toString g.inputIndices.length ++ toString g.outputIndices.length
    ++ toString g.allTensors.length ++ toString g.allNodes.length
  (getNodeIndices fuel g extractNodeLayer).map fun outcome => outcome.map fun nodes =>
    hash (nodes.foldl (fun id node => id ++ node.name) onlineModelId)

namespace LiteGraph

/-- What the key of a graph is to tell: its sizes, and the names of its outer nodes. -/
def identity (g : LiteGraph) : Nat × Nat × Nat × Nat × List String :=
  (g.inputIndices.length, g.outputIndices.length, g.allTensors.length, g.allNodes.length,
    (g.selectedNodes extractNodeLayer.toNat).map Node.name)

/-- The parts of the key of a graph. -/
def keyParts (g : LiteGraph) : List (List Char) :=
  ([toString g.inputIndices.length, toString g.outputIndices.length,
    toString g.allTensors.length, toString g.allNodes.length]
    ++ (g.selectedNodes extractNodeLayer.toNat).map Node.name).map String.toList

/-- The text hashed for a graph. -/
def onlineKey (g : LiteGraph) : String :=
  (g.selectedNodes extractNodeLayer.toNat).foldl (fun id node => id ++ node.name)
    ("" ++ toString g.inputIndices.length ++ toString g.outputIndices.length
      ++ toString g.allTensors.length ++ toString g.allNodes.length)

theorem toList_foldl_name (nodes : List Node) (id : String) :
    (nodes.foldl (fun id node => id ++ node.name) id).toList
      = id.toList ++ ((nodes.map Node.name).map String.toList).flatten := by
  induction nodes generalizing id with
  | nil => simp
  | cons node nodes ih =>
    rw [List.foldl_cons, ih, String.toList_append, List.append_assoc]
    rfl

theorem toList_onlineKey (g : LiteGraph) : g.onlineKey.toList = g.keyParts.flatten := by
  rw [onlineKey, toList_foldl_name, keyParts, List.map_append, List.flatten_append]
  simp

theorem keyParts_inj {g g' : LiteGraph} : g.keyParts = g'.keyParts ↔ g.identity = g'.identity := by
  have hchars : Function.Injective String.toList := fun _ _ => String.toList_inj.mp
  have hdecimal {m n : Nat} : toString m = toString n ↔ m = n := Decimal.toString_injective.eq_iff
  simp only [keyParts, identity, (List.map_injective_iff.mpr hchars).eq_iff, List.cons_append,
    List.nil_append, List.cons.injEq, Prod.mk.injEq, hdecimal]

end LiteGraph

/-- The selection for the key ends: three times the sizes of a graph in memory fit 64 bits. -/
theorem getNodeIndices_ends_held (g : HeldGraph) :
    ∃ rounds, ∀ fuel, rounds ≤ fuel → getNodeIndices fuel g.toLiteGraph extractNodeLayer
      = some (.ok (g.selectedNodes extractNodeLayer.toNat)) := by
  have hinputs := g.inputs_lt
  have houtputs := g.outputs_lt
  have hnodes := g.nodes_lt
  have hlayer : extractNodeLayer.toNat = 3 := rfl
  exact getNodeIndices_ends (by omega) (by rw [hlayer]; omega)

/-- **The text hashed for a graph**: its sizes, then the names of its outer nodes. -/
theorem getOnlineModelID_ends (hash : String → UInt64) (g : HeldGraph) :
    ∃ rounds, ∀ fuel, rounds ≤ fuel →
      getOnlineModelID hash fuel g.toLiteGraph = some (.ok (hash g.onlineKey)) := by
  obtain ⟨rounds, hrounds⟩ := getNodeIndices_ends_held g
  refine ⟨rounds, fun fuel hfuel => ?_⟩
  unfold getOnlineModelID
  rw [hrounds fuel hfuel]
  rfl

/-! ## The key of a cache -/

/-- The three checksums of a record: of the model and of its two lists of descriptions. -/
structure CheckSums where
  zero : UInt16
  one : UInt16
  two : UInt16
  deriving DecidableEq, Repr

namespace CheckSums

/-- `cacheInfo.modelCheckSum`. -/
def toList (sums : CheckSums) : List UInt16 :=
  [sums.zero, sums.one, sums.two]

/-- `cacheStr`. -/
def cacheStr (sums : CheckSums) : String :=
  toString sums.zero.toNat ++ toString sums.one.toNat ++ toString sums.two.toNat

/-- The parts of `cacheStr`. -/
def keyParts (sums : CheckSums) : List (List Char) :=
  [toString sums.zero.toNat, toString sums.one.toNat, toString sums.two.toNat].map String.toList

theorem toList_cacheStr (sums : CheckSums) : sums.cacheStr.toList = sums.keyParts.flatten := by
  simp [cacheStr, keyParts]

theorem keyParts_inj {sums sums' : CheckSums} : sums.keyParts = sums'.keyParts ↔ sums = sums' := by
  have hchars : Function.Injective String.toList := fun _ _ => String.toList_inj.mp
  have hdecimal {m n : Nat} : toString m = toString n ↔ m = n := Decimal.toString_injective.eq_iff
  obtain ⟨zero, one, two⟩ := sums
  obtain ⟨zero', one', two'⟩ := sums'
  simp only [keyParts, (List.map_injective_iff.mpr hchars).eq_iff, List.cons.injEq, hdecimal,
    and_true, CheckSums.mk.injEq, UInt16.toNat_inj]

end CheckSums

/-- What `GetNNRtModelIDFromCache` makes of the answer of `CheckCacheInfo`: three checksums
(`NUMBER_CACHE_INFO_MEMBERS`) are hashed. -/
def modelIDOfRecord (hash : String → UInt64) (nnrtModelID : UInt64) :
    ReturnCode × NNCompiledCacheInfo → ReturnCode × UInt64
  | (.success, cacheInfo) =>
    match cacheInfo.modelCheckSum with
    | [zero, one, two] => (.success, hash (CheckSums.cacheStr ⟨zero, one, two⟩))
    | _ => (.invalidParameter, nnrtModelID)
  | (retCode, _) => (retCode, nnrtModelID)

/-- `GetNNRtModelIDFromCache`, which `NNCompiler` and `NNExecutor` each have. -/
def getNNRtModelIDFromCache (hash : String → UInt64) (env : CacheEnv) (fs : FileSystem)
    (backendID : UInt64) (path modelName : String) (nnrtModelID : UInt64) :
    Except Fault (ReturnCode × UInt64) :=
  if path = "" then .ok (.invalidParameter, nnrtModelID)
  else if modelName = "" then .ok (.invalidParameter, nnrtModelID)
  -- What is not a directory is a model of its own.
  else if fs.realpath path = none then .ok (.success, hash path)
  else
    match fs.find? path (infoFileName modelName), env.io.reads (infoFileName modelName) with
    | none, _ | _, .realpathFails => .ok (.invalidParameter, nnrtModelID)
    | some content, outcome =>
      match ({} : NNCompiledCache).setBackend env.backend backendID with
      | (.success, compiledCache) =>
        (checkCacheInfo env.codec compiledCache.backendID
          (if outcome = .openFails then none else some content)).map
            (modelIDOfRecord hash nnrtModelID)
      | (retCode, _) => .ok (retCode, nnrtModelID)

/-- `NNCompiler::GetNNRtModelIDFromCache`. -/
def NNCompiler.getNNRtModelIDFromCache {δ : Type} (hash : String → UInt64) (env : CacheEnv)
    (fs : FileSystem) (c : NNCompiler δ) (path modelName : String) (nnrtModelID : UInt64) :
    Except Fault (ReturnCode × UInt64) :=
  NNRt.getNNRtModelIDFromCache hash env fs c.backendID path modelName nnrtModelID

/-- `NNExecutor::GetNNRtModelIDFromCache`. -/
def NNExecutor.getNNRtModelIDFromCache (hash : String → UInt64) (env : CacheEnv)
    (fs : FileSystem) (e : NNExecutor) (path modelName : String) (nnrtModelID : UInt64) :
    Except Fault (ReturnCode × UInt64) :=
  NNRt.getNNRtModelIDFromCache hash env fs e.backendID path modelName nnrtModelID

/-- The call gets as far as the checksums of a record, and these are the three it reads. -/
structure ReadsCheckSums (env : CacheEnv) (fs : FileSystem) (backendID : UInt64)
    (path modelName : String) (sums : CheckSums) : Prop where
  path_ne : path ≠ ""
  modelName_ne : modelName ≠ ""
  backend : ∃ reply, env.backend = some (some reply)
  realpath : env.io.reads (infoFileName modelName) ≠ .realpathFails
  record : ∃ content info, fs.find? path (infoFileName modelName) = some content ∧
    checkCacheInfo env.codec backendID
      (if env.io.reads (infoFileName modelName) = .openFails then none else some content)
        = .ok (.success, info) ∧
    info.modelCheckSum = sums.toList

/-- **The text hashed for a cache.** -/
theorem getNNRtModelIDFromCache_of_reads {env : CacheEnv} {fs : FileSystem} {backendID : UInt64}
    {path modelName : String} {sums : CheckSums}
    (h : ReadsCheckSums env fs backendID path modelName sums) (hash : String → UInt64)
    (nnrtModelID : UInt64) :
    getNNRtModelIDFromCache hash env fs backendID path modelName nnrtModelID
      = .ok (.success, hash sums.cacheStr) := by
  obtain ⟨content, info, hfind, hcheck, hsums⟩ := h.record
  obtain ⟨reply, hreply⟩ := h.backend
  obtain ⟨dir, hdir⟩ := FileSystem.realpath_of_find? hfind
  have hrealpath := h.realpath
  unfold getNNRtModelIDFromCache
  rw [if_neg h.path_ne, if_neg h.modelName_ne, if_neg (by rw [hdir]; exact Option.some_ne_none _),
    hfind, hreply]
  generalize env.io.reads (infoFileName modelName) = outcome at hcheck hrealpath
  have hrest : (checkCacheInfo env.codec backendID
        (if outcome = .openFails then none else some content)).map
          (modelIDOfRecord hash nnrtModelID) = .ok (.success, hash sums.cacheStr) := by
    rw [hcheck, Except.map, modelIDOfRecord, hsums]
    rfl
  cases outcome with
  | realpathFails => exact absurd rfl hrealpath
  | _ => exact hrest

/-! ## The identity of a compiler's model -/

/-- `GetNNRtModelIDFromModel`; either pointer may be null. -/
def getNNRtModelIDFromModel (hash : String → UInt64) (fuel : Nat)
    (innerModel : Option (Option LiteGraph)) (nnrtModelID : UInt64) :
    Option (Except Fault (ReturnCode × UInt64)) :=
  match innerModel with
  | none | some none => some (.ok (.invalidParameter, nnrtModelID))
  | some (some liteGraph) =>
    (getOnlineModelID hash fuel liteGraph).map (Except.map fun id => (.success, id))

/-- `NNCompiler::GetOnlineModelID`. -/
def NNCompiler.getOnlineModelID {δ : Type} (hash : String → UInt64) (fuel : Nat) (env : CacheEnv)
    (fs : FileSystem) (c : NNCompiler δ) (innerModel : Option (Option LiteGraph)) :
    Option (Except Fault UInt64) :=
  match c.getNNRtModelIDFromCache hash env fs c.cachePath c.extensionConfig.modelName 0 with
  | .error fault => some (.error fault)
  | .ok (.success, nnrtModelID) => some (.ok nnrtModelID)
  | .ok (_, nnrtModelID) =>
    -- A null model is refused as well, and leaves the id as it is.
    (getNNRtModelIDFromModel hash fuel innerModel nnrtModelID).map
      (Except.map fun (ret, id) => if ret = .success then id else 0)

/-- Without a cache, the scheduling service knows a compiler by the key of its graph. -/
theorem NNCompiler.getOnlineModelID_of_noCache {δ : Type} (hash : String → UInt64)
    (env : CacheEnv) (fs : FileSystem) {c : NNCompiler δ} (hpath : c.cachePath = "")
    {g : LiteGraph} {fuel : Nat} {id : UInt64}
    (hid : NNRt.getOnlineModelID hash fuel g = some (.ok id)) :
    c.getOnlineModelID hash fuel env fs (some (some g)) = some (.ok id) := by
  unfold NNCompiler.getOnlineModelID NNCompiler.getNNRtModelIDFromCache
    NNRt.getNNRtModelIDFromCache getNNRtModelIDFromModel
  rw [if_pos hpath]
  dsimp only
  rw [hid]
  rfl

/-- With a record of the model, by the key of its checksums. -/
theorem NNCompiler.getOnlineModelID_of_reads {δ : Type} (hash : String → UInt64) (fuel : Nat)
    {env : CacheEnv} {fs : FileSystem} {c : NNCompiler δ} {sums : CheckSums}
    (h : ReadsCheckSums env fs c.backendID c.cachePath c.extensionConfig.modelName sums)
    (innerModel : Option (Option LiteGraph)) :
    c.getOnlineModelID hash fuel env fs innerModel = some (.ok (hash sums.cacheStr)) := by
  unfold NNCompiler.getOnlineModelID NNCompiler.getNNRtModelIDFromCache
  rw [getNNRtModelIDFromCache_of_reads h]

/-! ## What the keys tell apart -/

theorem onlineKey_injective_iff (g g' : LiteGraph) :
    (g.onlineKey = g'.onlineKey → g.identity = g'.identity) ↔
      ¬ RunsTogether g.keyParts g'.keyParts := by
  rw [Concat.not_runsTogether_iff, ← LiteGraph.toList_onlineKey, ← LiteGraph.toList_onlineKey,
    String.toList_inj, LiteGraph.keyParts_inj]

theorem cacheStr_injective_iff (sums sums' : CheckSums) :
    (sums.cacheStr = sums'.cacheStr → sums = sums') ↔
      ¬ RunsTogether sums.keyParts sums'.keyParts := by
  rw [Concat.not_runsTogether_iff, ← CheckSums.toList_cacheStr, ← CheckSums.toList_cacheStr,
    String.toList_inj, CheckSums.keyParts_inj]

/-- Graphs whose numbers and names have the same lengths are told apart. -/
theorem LiteGraph.identity_eq_of_lengths {g g' : LiteGraph}
    (h : g.keyParts.map List.length = g'.keyParts.map List.length)
    (hkey : g.onlineKey = g'.onlineKey) : g.identity = g'.identity :=
  (onlineKey_injective_iff g g').mpr (Concat.not_runsTogether_of_lengths h) hkey

/-- So are records whose checksums have the same numbers of digits. -/
theorem CheckSums.eq_of_lengths {sums sums' : CheckSums}
    (h : sums.keyParts.map List.length = sums'.keyParts.map List.length)
    (hkey : sums.cacheStr = sums'.cacheStr) : sums = sums' :=
  (cacheStr_injective_iff sums sums').mpr (Concat.not_runsTogether_of_lengths h) hkey

/-- **The keys tell two models apart** exactly where the parts of one key do not run together
with those of the other, and so always where they have the same lengths; the keys are what is
hashed, of a graph after the loops over its outer nodes, of a cache for the compiler and for
the executor alike. -/
theorem modelKeys_injective_iff (g g' : HeldGraph) (sums sums' : CheckSums) :
    (∀ hash : String → UInt64, ∃ rounds, ∀ fuel, rounds ≤ fuel →
      getNodeIndices fuel g.toLiteGraph extractNodeLayer
        = some (.ok (g.selectedNodes extractNodeLayer.toNat)) ∧
      getOnlineModelID hash fuel g.toLiteGraph = some (.ok (hash g.onlineKey)) ∧
      ∀ (env : CacheEnv) (fs : FileSystem) (c : NNCompiler TensorDesc), c.cachePath = "" →
        c.getOnlineModelID hash fuel env fs (some (some g.toLiteGraph))
          = some (.ok (hash g.onlineKey))) ∧
    ((g.onlineKey = g'.onlineKey → g.identity = g'.identity) ↔
      ¬ RunsTogether g.keyParts g'.keyParts) ∧
    (∀ (hash : String → UInt64) (env : CacheEnv) (fs : FileSystem) (path modelName : String)
        (nnrtModelID : UInt64),
      (∀ c : NNCompiler TensorDesc, ReadsCheckSums env fs c.backendID path modelName sums →
        c.getNNRtModelIDFromCache hash env fs path modelName nnrtModelID
          = .ok (.success, hash sums.cacheStr)) ∧
      (∀ e : NNExecutor, ReadsCheckSums env fs e.backendID path modelName sums →
        e.getNNRtModelIDFromCache hash env fs path modelName nnrtModelID
          = .ok (.success, hash sums.cacheStr)) ∧
      ∀ (fuel : Nat) (c : NNCompiler TensorDesc) (innerModel : Option (Option LiteGraph)),
        ReadsCheckSums env fs c.backendID c.cachePath c.extensionConfig.modelName sums →
          c.getOnlineModelID hash fuel env fs innerModel = some (.ok (hash sums.cacheStr))) ∧
    ((sums.cacheStr = sums'.cacheStr → sums = sums') ↔
      ¬ RunsTogether sums.keyParts sums'.keyParts) ∧
    (g.keyParts.map List.length = g'.keyParts.map List.length →
      g.onlineKey = g'.onlineKey → g.identity = g'.identity) ∧
    (sums.keyParts.map List.length = sums'.keyParts.map List.length →
      sums.cacheStr = sums'.cacheStr → sums = sums') := by
  refine ⟨fun hash => ?_, onlineKey_injective_iff _ _, fun hash env fs path modelName
    nnrtModelID => ⟨fun c h => ?_, fun e h => ?_, fun fuel c innerModel h => ?_⟩,
    cacheStr_injective_iff sums sums', LiteGraph.identity_eq_of_lengths, CheckSums.eq_of_lengths⟩
  · obtain ⟨selects, hselects⟩ := getNodeIndices_ends_held g
    obtain ⟨hashes, hhashes⟩ := getOnlineModelID_ends hash g
    refine ⟨max selects hashes, fun fuel hfuel =>
      ⟨hselects fuel (by omega), hhashes fuel (by omega), fun env fs c hpath => ?_⟩⟩
    exact NNCompiler.getOnlineModelID_of_noCache hash env fs hpath (hhashes fuel (by omega))
  · exact getNNRtModelIDFromCache_of_reads h hash nnrtModelID
  · exact getNNRtModelIDFromCache_of_reads h hash nnrtModelID
  · exact NNCompiler.getOnlineModelID_of_reads hash fuel h innerModel

/-! ## Records that are read -/

/-- A record of three checksums, for the backend 1. -/
def recordOf (sums : CheckSums) : NNCompiledCacheInfo :=
  { fileNumber := 3, deviceId := 1, modelCheckSum := sums.toList }

/-- A directory with this record of the model `m`. -/
def recordFs (sums : CheckSums) : FileSystem :=
  (FileSystem.single "/data" dataDir_ne).write "/data" (infoFileName "m")
    (cacheInfoText .compact (recordOf sums))

/-- A backend with a device, and no I/O error. -/
def recordEnv : CacheEnv :=
  { codec := .compact, backend := some (some ⟨.success, 0⟩) }

/-- Any three checksums can be read. -/
theorem readsCheckSums_recordFs (sums : CheckSums) :
    ReadsCheckSums recordEnv (recordFs sums) 1 "/data" "m" sums where
  path_ne := by decide
  modelName_ne := by decide
  backend := ⟨_, rfl⟩
  realpath := fun h => nomatch h
  record := by
    have hdir : (FileSystem.single "/data" dataDir_ne).realpath "/data" = some "/data" := by
      simp [FileSystem.single]
    refine ⟨cacheInfoText .compact (recordOf sums), recordOf sums, FileSystem.find?_write hdir, ?_,
      rfl⟩
    have hdump := compact_faithful.dump_short (recordOf sums) (by decide : 3 ≤ 100)
    exact checkCacheInfo_written compact_faithful rfl (List.cons_ne_nil _ _)
      (by decide : 3 ≤ 2 ^ 60 - 1) hdump

/-! ## Two models of one key -/

/-- Eleven additions over 22 tensors; the `i`-th one makes tensor `11 + i`. -/
def addsGraph (inputIndices outputIndices : List Nat) (data : Nat → Bytes)
    (operands : Nat → List Nat) : LiteGraph where
  name := "NNR_Model"
  inputIndices := inputIndices
  outputIndices := outputIndices
  allTensors := (List.range 22).map fun i =>
    some ⟨cString [], .float32, [1], some .nhwc, data i, []⟩
  allNodes := (List.range 11).map fun i =>
    ⟨"Add:" ++ toString i, .none, operands i, [11 + i], .addFusion .noActivation⟩
  subGraphs := [⟨"NNRt_SubGraph", inputIndices, outputIndices, List.range 11⟩]

/-- One input, to which each addition adds it or one of ten constants. -/
def oneInput : HeldGraph :=
  ⟨addsGraph [0] (List.range' 11 11)
    (fun i => if 1 ≤ i ∧ i ≤ 10 then [0, 0, 128, 63] else []) fun i => [0, i],
    by decide, by decide, by decide, by decide⟩

/-- Eleven inputs, added up one by one, the last one twice. -/
def elevenInputs : HeldGraph :=
  ⟨addsGraph (List.range 11) [21] (fun _ => [])
    fun i => if i = 0 then [0, 1] else [10 + i, min (i + 1) 10],
    by decide, by decide, by decide, by decide⟩

/-- Two such records, one read by a compiler and one by an executor. -/
theorem modelKeys_injective_iff_records :
    ({ backendID := 1 } : NNCompiler TensorDesc).getNNRtModelIDFromCache
        (fun s => UInt64.ofNat s.length) recordEnv (recordFs ⟨1, 11, 5⟩) "/data" "m" 0
      = .ok (.success, UInt64.ofNat (CheckSums.cacheStr ⟨1, 11, 5⟩).length) ∧
    ({ backendID := 1 } : NNExecutor).getNNRtModelIDFromCache
        (fun s => UInt64.ofNat s.length) recordEnv (recordFs ⟨11, 1, 5⟩) "/data" "m" 0
      = .ok (.success, UInt64.ofNat (CheckSums.cacheStr ⟨11, 1, 5⟩).length) :=
  ⟨((modelKeys_injective_iff oneInput elevenInputs ⟨1, 11, 5⟩ ⟨11, 1, 5⟩).2.2.1 _ _ _ _ _ _).1 _
      (readsCheckSums_recordFs _),
    ((modelKeys_injective_iff oneInput elevenInputs ⟨11, 1, 5⟩ ⟨1, 11, 5⟩).2.2.1 _ _ _ _ _ _).2.1 _
      (readsCheckSums_recordFs _)⟩

/-- One input and eleven outputs are written like eleven inputs and one output, and the
checksums 1, 11, 5 like 11, 1, 5. -/
theorem modelKeys_collide :
    (∀ hash : String → UInt64,
      getOnlineModelID hash 0 oneInput.toLiteGraph = some (.ok (hash oneInput.onlineKey)) ∧
      getOnlineModelID hash 0 elevenInputs.toLiteGraph
        = some (.ok (hash elevenInputs.onlineKey))) ∧
    oneInput.onlineKey = elevenInputs.onlineKey ∧ oneInput.identity ≠ elevenInputs.identity ∧
    CheckSums.cacheStr ⟨1, 11, 5⟩ = CheckSums.cacheStr ⟨11, 1, 5⟩ ∧
    (⟨1, 11, 5⟩ : CheckSums) ≠ ⟨11, 1, 5⟩ := by
  have hparts : oneInput.keyParts.flatten = elevenInputs.keyParts.flatten := by rfl
  refine ⟨fun hash => ⟨rfl, rfl⟩, ?_, by decide, ?_, by decide⟩
  · rw [← String.toList_inj, LiteGraph.toList_onlineKey, LiteGraph.toList_onlineKey, hparts]
  · rw [← String.toList_inj, CheckSums.toList_cacheStr, CheckSums.toList_cacheStr]
    rfl

end NNRt
