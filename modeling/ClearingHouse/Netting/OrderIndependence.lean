import ClearingHouse.Netting

/-!
# Netting without an order

`calculate_net_obligations` starts the entry of a pair from its first position and adds the later
ones to it.  If the positions of a pair agree on price and settlement type, the obligations depend
on the totals of the pairs alone: neither the order of the positions matters nor how a quantity is
divided among them.
-/

namespace ClearingHouse

namespace Netting

open Fibers

/-- Pair and side of a position. -/
def Position.sideKey (position : Position) : (Uuid × Uuid) × Side := (position.key, position.side)

/-- Total quantity on one side of a pair. -/
def pairTotal (positions : List Position) (k : Uuid × Uuid) (side : Side) : ℚ :=
  fiberSum Position.sideKey Position.totalQuantity positions (k, side)

/-- What a pair buys less what it sells. -/
def pairNet (positions : List Position) (k : Uuid × Uuid) : ℚ :=
  pairTotal positions k .buy - pairTotal positions k .sell

/-- Two positions carry the same price and settlement type. -/
def SameTerms (position other : Position) : Prop :=
  position.latestPrice = other.latestPrice ∧ position.settlementType = other.settlementType

/-- The positions of a pair carry the same price and settlement type. -/
def Coherent (positions : List Position) : Prop :=
  ∀ position ∈ positions, ∀ other ∈ positions, position.key = other.key → SameTerms position other

/-- The obligation of a pair with a net quantity, on the terms of one of its positions. -/
def owedBy (position : Position) (netQuantity : ℚ) : Obligation where
  memberId := position.memberId
  instrumentId := position.instrumentId
  netQuantity := netQuantity
  netAmount := netQuantity * position.latestPrice.getD 0
  settlementAmount := |netQuantity * position.latestPrice.getD 0|
  settlementType := position.settlementType.getD .cash

/-- Pair of an obligation. -/
def Obligation.key (obligation : Obligation) : Uuid × Uuid :=
  (obligation.memberId, obligation.instrumentId)

/-- One obligation for each pair that does not net to zero, and no other. -/
structure NetsTo (positions : List Position) (obligations : List Obligation) : Prop where
  once : (obligations.map Obligation.key).Nodup
  owed : ∀ obligation, obligation ∈ obligations ↔
    ∃ position ∈ positions, pairNet positions position.key ≠ 0 ∧
      obligation = owedBy position (pairNet positions position.key)

/-- Positions into which one can be divided: they share its pair, side and terms, and their
quantities add up to its quantity. -/
structure Parts (whole : Position) (parts : List Position) : Prop where
  several : parts ≠ []
  shared : ∀ part ∈ parts, part.key = whole.key ∧ part.side = whole.side ∧ SameTerms part whole
  total : (parts.map Position.totalQuantity).sum = whole.totalQuantity

/-- Every position is kept or divided. -/
def Splits (positions divided : List Position) : Prop :=
  ∃ pieces, List.Forall₂ Parts positions pieces ∧ divided = pieces.flatten

variable {positions divided : List Position} {k : Uuid × Uuid}

theorem pairTotal_cons (position : Position) (positions : List Position) (k : Uuid × Uuid)
    (side : Side) :
    pairTotal (position :: positions) k side =
      (if position.key = k ∧ position.side = side then position.totalQuantity else 0) +
        pairTotal positions k side := by
  rw [pairTotal, fiberSum_cons, pairTotal]
  simp only [Position.sideKey, Prod.mk.injEq]

/-- A position adds its quantity to one side of the entry and leaves price and type alone. -/
theorem add_eq {position : Position} {data : Grouped}
    (priced : data.latestPrice = position.latestPrice.getD 0) :
    data.add exactBackend position =
      { data with
        buyQty := data.buyQty + if position.side = .buy then position.totalQuantity else 0
        sellQty := data.sellQty +
          if position.side = .sell then position.totalQuantity else 0 } := by
  have price : position.latestPrice.getD data.latestPrice = data.latestPrice := by
    cases known : position.latestPrice with
    | none => rfl
    | some price => rw [priced, known, Option.getD_some, Option.getD_some]
  cases side : position.side with
  | buy => simp [Grouped.add, Backend.add, side, price]
  | sell => simp [Grouped.add, Backend.add, side, price]

/-- The entry of a pair after its positions have been added to it. -/
theorem foldl_add {rows : List Position} {first : Position} {data : Grouped}
    (pair : ∀ row ∈ rows, row.key = k) (terms : ∀ row ∈ rows, SameTerms row first)
    (priced : data.latestPrice = first.latestPrice.getD 0) :
    rows.foldl (fun value row =>
        some (Grouped.add exactBackend row (value.getD (Grouped.start row)))) (some data) =
      some { data with
        buyQty := data.buyQty + pairTotal rows k .buy
        sellQty := data.sellQty + pairTotal rows k .sell } := by
  induction rows generalizing data with
  | nil => simp [pairTotal]
  | cons row rows induction =>
      have here := terms row List.mem_cons_self
      have row_priced : data.latestPrice = row.latestPrice.getD 0 := by rw [priced, here.1]
      rw [List.foldl_cons, Option.getD_some, add_eq row_priced,
        induction (fun other inside => pair other (List.mem_cons_of_mem row inside))
          (fun other inside => terms other (List.mem_cons_of_mem row inside)) (by exact priced)]
      simp only [pairTotal_cons, pair row List.mem_cons_self, true_and, add_assoc]

/-- Positions of other pairs do not count. -/
theorem pairTotal_filter (positions : List Position) (k : Uuid × Uuid) (side : Side) :
    pairTotal (positions.filter fun position => position.key = k) k side =
      pairTotal positions k side := by
  induction positions with
  | nil => rfl
  | cons position positions induction =>
      by_cases hit : position.key = k
      · rw [List.filter_cons_of_pos (by simpa using hit), pairTotal_cons, pairTotal_cons,
          induction]
      · rw [List.filter_cons_of_neg (by simpa using hit), pairTotal_cons, induction,
          if_neg fun both => hit both.1, zero_add]

/-- The loop invariant: the entry of a pair holds the totals of both sides and the terms that its
positions share. -/
theorem valueAt_grouped_of_coherent (coherent : Coherent positions) {position : Position}
    (inside : position ∈ positions) :
    valueAt position.key (grouped exactBackend positions) =
      some
        { buyQty := pairTotal positions position.key .buy
          sellQty := pairTotal positions position.key .sell
          latestPrice := position.latestPrice.getD 0
          settlementType := position.settlementType.getD .cash } := by
  have pair : ∀ row ∈ positions.filter fun row => row.key = position.key,
      row.key = position.key ∧ SameTerms row position := fun row member => by
    have same : row.key = position.key := by simpa using (List.mem_filter.mp member).2
    exact ⟨same, coherent row (List.mem_filter.mp member).1 position inside same⟩
  rw [grouped, valueAt_collect, ← pairTotal_filter positions _ .buy,
    ← pairTotal_filter positions _ .sell]
  have member : position ∈ positions.filter fun row => row.key = position.key :=
    List.mem_filter.mpr ⟨inside, by simp⟩
  cases rows : positions.filter fun row => row.key = position.key with
  | nil => rw [rows] at member; cases member
  | cons first rest =>
      rw [rows] at pair
      obtain ⟨first_key, first_terms⟩ := pair first List.mem_cons_self
      have later := fun row inside => pair row (List.mem_cons_of_mem first inside)
      have start : (Grouped.start first).latestPrice = position.latestPrice.getD 0 := by
        rw [Grouped.start, first_terms.1]
      rw [List.foldl_cons, Option.getD_none, add_eq rfl,
        foldl_add (fun row inside => (later row inside).1) (fun row inside => (later row inside).2)
          (by exact start), pairTotal_cons, pairTotal_cons]
      simp [Grouped.start, first_key, first_terms.1, first_terms.2]

theorem obligationOf_eq {position : Position} {data : Grouped} {obligation : Obligation}
    (priced : data.latestPrice = position.latestPrice.getD 0)
    (typed : data.settlementType = position.settlementType.getD .cash) :
    obligationOf exactBackend (position.key, data) = some obligation ↔
      data.buyQty - data.sellQty ≠ 0 ∧
        obligation = owedBy position (data.buyQty - data.sellQty) := by
  rw [obligationOf]
  by_cases flat : data.buyQty - data.sellQty = 0
  · simp [Backend.sub, flat]
  · simp [Backend.sub, Backend.mul, Backend.abs, owedBy, Position.key, flat, priced, typed,
      eq_comm]

theorem key_of_obligationOf {entry : (Uuid × Uuid) × Grouped} {obligation : Obligation}
    (owed : obligationOf exactBackend entry = some obligation) : obligation.key = entry.1 := by
  simp only [obligationOf, Option.ite_none_left_eq_some, Option.some.injEq] at owed
  obtain ⟨-, rfl⟩ := owed
  rfl

theorem netsTo_calculateNetObligations (coherent : Coherent positions) :
    NetsTo positions (calculateNetObligations exactBackend positions) := by
  have distinct : ((grouped exactBackend positions).map Prod.fst).Nodup := nodup_keys_collect _
  constructor
  · rw [List.Nodup, List.pairwise_map] at distinct ⊢
    refine List.pairwise_filterMap.mpr (distinct.imp fun apart owed from_one owed' from_other => ?_)
    rw [key_of_obligationOf from_one, key_of_obligationOf from_other]
    exact apart
  · intro obligation
    rw [calculateNetObligations, List.mem_filterMap]
    constructor
    · rintro ⟨entry, member, owed⟩
      obtain ⟨position, inside, same⟩ := List.mem_map.mp
        ((mem_keys_collect positions entry.1).mp (List.mem_map_of_mem member))
      have value := valueAt_of_mem distinct member
      rw [← same, valueAt_grouped_of_coherent coherent inside, Option.some.injEq] at value
      obtain ⟨key, data⟩ := entry
      obtain rfl : position.key = key := same
      subst value
      exact ⟨position, inside, (obligationOf_eq rfl rfl).mp owed⟩
    · rintro ⟨position, inside, net, rfl⟩
      have present : position.key ∈ (grouped exactBackend positions).map Prod.fst :=
        (mem_keys_collect positions position.key).mpr (List.mem_map_of_mem inside)
      obtain ⟨⟨key, data⟩, member, same⟩ := List.mem_map.mp present
      have value := valueAt_of_mem distinct member
      obtain rfl : key = position.key := same
      rw [valueAt_grouped_of_coherent coherent inside, Option.some.injEq] at value
      subst value
      exact ⟨_, member, (obligationOf_eq rfl rfl).mpr ⟨net, rfl⟩⟩

/-- Positions that agree in their totals and in the terms of their pairs owe the same. -/
theorem perm_of_netsTo {other : List Position} {obligations obligations' : List Obligation}
    (nets : NetsTo positions obligations) (nets' : NetsTo other obligations')
    (net : ∀ k, pairNet positions k = pairNet other k)
    (forth : ∀ position ∈ positions, ∃ partner ∈ other,
      partner.key = position.key ∧ SameTerms partner position)
    (back : ∀ partner ∈ other, ∃ position ∈ positions,
      partner.key = position.key ∧ SameTerms partner position) :
    obligations.Perm obligations' := by
  have owed_eq : ∀ {position partner : Position} (netQuantity : ℚ), partner.key = position.key →
      SameTerms partner position → owedBy partner netQuantity = owedBy position netQuantity := by
    intro position partner netQuantity pair terms
    obtain ⟨member, instrument⟩ := Prod.mk.inj pair
    simp only [owedBy, member, instrument, terms.1, terms.2]
  apply (List.perm_ext_iff_of_nodup nets.once.of_map nets'.once.of_map).mpr
  intro obligation
  rw [nets.owed, nets'.owed]
  constructor
  · rintro ⟨position, inside, nonzero, rfl⟩
    obtain ⟨partner, there, pair, terms⟩ := forth position inside
    exact ⟨partner, there, by rwa [pair, ← net], by rw [owed_eq _ pair terms, pair, net]⟩
  · rintro ⟨partner, there, nonzero, rfl⟩
    obtain ⟨position, inside, pair, terms⟩ := back partner there
    exact ⟨position, inside, by rwa [← pair, net], by rw [owed_eq _ pair terms, pair, net]⟩

theorem coherent_of_terms {other : List Position} (coherent : Coherent positions)
    (back : ∀ partner ∈ other, ∃ position ∈ positions,
      partner.key = position.key ∧ SameTerms partner position) : Coherent other := by
  intro first first_inside second second_inside same
  obtain ⟨position, inside, pair, terms⟩ := back first first_inside
  obtain ⟨position', inside', pair', terms'⟩ := back second second_inside
  have whole := coherent position inside position' inside' (pair.symm.trans (same.trans pair'))
  exact ⟨terms.1.trans (whole.1.trans terms'.1.symm), terms.2.trans (whole.2.trans terms'.2.symm)⟩

theorem pairNet_perm {other : List Position} (perm : positions.Perm other) (k : Uuid × Uuid) :
    pairNet positions k = pairNet other k := by
  simp only [pairNet, pairTotal, fiberSum_perm perm]

theorem pairTotal_parts {whole : Position} {parts : List Position} (divides : Parts whole parts)
    (k : Uuid × Uuid) (side : Side) :
    pairTotal parts k side =
      if whole.key = k ∧ whole.side = side then whole.totalQuantity else 0 := by
  have key : ∀ part ∈ parts, part.sideKey = whole.sideKey := fun part inside => by
    obtain ⟨pair, on_side, -⟩ := divides.shared part inside
    rw [Position.sideKey, pair, on_side, Position.sideKey]
  rw [pairTotal, fiberSum_of_key key, divides.total]
  simp only [Position.sideKey, Prod.mk.injEq]

/-- A division keeps every total. -/
theorem pairTotal_splits (splits : Splits positions divided) (k : Uuid × Uuid) (side : Side) :
    pairTotal divided k side = pairTotal positions k side := by
  obtain ⟨pieces, divides, rfl⟩ := splits
  induction divides with
  | nil => rfl
  | @cons whole parts positions pieces here rest induction =>
      rw [List.flatten_cons, pairTotal, fiberSum_append, pairTotal_cons, ← induction,
        ← pairTotal_parts here k side]
      rfl

/-- Every part comes from a position, and every position has a part. -/
theorem terms_of_splits (splits : Splits positions divided) :
    (∀ part ∈ divided, ∃ whole ∈ positions, part.key = whole.key ∧ SameTerms part whole) ∧
      ∀ whole ∈ positions, ∃ part ∈ divided, part.key = whole.key ∧ SameTerms part whole := by
  obtain ⟨pieces, divides, rfl⟩ := splits
  induction divides with
  | nil => exact ⟨by simp, by simp⟩
  | @cons whole parts positions pieces here rest induction =>
      obtain ⟨back, forth⟩ := induction
      constructor
      · intro part member
        rcases List.mem_append.mp member with inside | later
        · obtain ⟨pair, -, terms⟩ := here.shared part inside
          exact ⟨whole, List.mem_cons_self, pair, terms⟩
        · obtain ⟨other, there, matched⟩ := back part later
          exact ⟨other, List.mem_cons_of_mem whole there, matched⟩
      · intro other member
        rcases List.mem_cons.mp member with rfl | later
        · obtain ⟨part, inside⟩ := List.exists_mem_of_ne_nil _ here.several
          obtain ⟨pair, -, terms⟩ := here.shared part inside
          exact ⟨part, List.mem_append_left _ inside, pair, terms⟩
        · obtain ⟨part, inside, matched⟩ := forth other later
          exact ⟨part, List.mem_append_right _ inside, matched⟩

/-- The obligations are those of the totals, whatever the order of the positions and however they
are divided. -/
theorem calculateNetObligations_of_totals (positions : List Position)
    (coherent : Coherent positions) :
    NetsTo positions (calculateNetObligations exactBackend positions) ∧
      (∀ reordered, positions.Perm reordered →
        (calculateNetObligations exactBackend positions).Perm
          (calculateNetObligations exactBackend reordered)) ∧
      ∀ divided, Splits positions divided →
        (calculateNetObligations exactBackend positions).Perm
          (calculateNetObligations exactBackend divided) := by
  have nets := netsTo_calculateNetObligations coherent
  refine ⟨nets, fun reordered perm => ?_, fun divided splits => ?_⟩
  · have forth : ∀ position ∈ positions, ∃ partner ∈ reordered,
        partner.key = position.key ∧ SameTerms partner position := fun position inside =>
      ⟨position, perm.mem_iff.mp inside, rfl, rfl, rfl⟩
    have back : ∀ partner ∈ reordered, ∃ position ∈ positions,
        partner.key = position.key ∧ SameTerms partner position := fun partner inside =>
      ⟨partner, perm.mem_iff.mpr inside, rfl, rfl, rfl⟩
    exact perm_of_netsTo nets (netsTo_calculateNetObligations (coherent_of_terms coherent back))
      (pairNet_perm perm) forth back
  · obtain ⟨back, forth⟩ := terms_of_splits splits
    refine perm_of_netsTo nets (netsTo_calculateNetObligations (coherent_of_terms coherent back))
      (fun k => ?_) forth back
    rw [pairNet, pairNet, pairTotal_splits splits, pairTotal_splits splits]

/-- Three positions of one pair: 300 bought, and 100 and 50 sold. -/
def threeLots : List Position :=
  [⟨1, 7, .buy, 300, 30000, some 100, some .cash⟩, ⟨1, 7, .sell, 100, 10000, some 100, some .cash⟩,
    ⟨1, 7, .sell, 50, 5000, some 100, some .cash⟩]

private theorem coherent_threeLots : Coherent threeLots := by
  unfold Coherent SameTerms
  decide

/-- They owe one obligation of 150. -/
theorem calculateNetObligations_threeLots :
    NetsTo threeLots (calculateNetObligations exactBackend threeLots) ∧
      (calculateNetObligations exactBackend threeLots).map Obligation.netQuantity = [150] :=
  ⟨(calculateNetObligations_of_totals threeLots coherent_threeLots).1, by decide +kernel⟩

end Netting

end ClearingHouse
