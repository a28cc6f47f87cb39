/-
Transfers between accounts with a level.

A batch of transfers is levelled when whoever sends keeps at least its level and whoever
receives gets no further than its level.  Then no account does both, in one batch or over any
number of batches, the total stays, and what lies above the levels shrinks by every amount
sent, so that some batch is empty.

The accounts, the levels and the batches are arbitrary.
-/

import Mathlib.Algebra.BigOperators.Group.Finset.Piecewise
import Mathlib.Algebra.GroupWithZero.Nat
import Mathlib.Algebra.Order.BigOperators.Group.Finset

set_option autoImplicit false

namespace VpnSuite.Foundations

structure Transfer (κ : Type) where
  source : κ
  target : κ
  amount : Nat
  deriving DecidableEq, Repr

namespace Transfers

variable {κ : Type} [DecidableEq κ]

/-! ### One batch -/

def sent (transfers : List (Transfer κ)) (key : κ) : Nat :=
  (transfers.map (fun transfer => if transfer.source = key then transfer.amount else 0)).sum

def received (transfers : List (Transfer κ)) (key : κ) : Nat :=
  (transfers.map (fun transfer => if transfer.target = key then transfer.amount else 0)).sum

def settleOne (key : κ) (balance : Nat) (transfer : Transfer κ) : Nat :=
  if transfer.source = key then balance - transfer.amount
  else if transfer.target = key then balance + transfer.amount
  else balance

/-- The balance of a key after the transfers. -/
def settled (transfers : List (Transfer κ)) (key : κ) (balance : Nat) : Nat :=
  transfers.foldl (settleOne key) balance

section Batch

variable {transfers : List (Transfer κ)} {key : κ} {balance : Nat}

theorem sent_cons (transfer : Transfer κ) (rest : List (Transfer κ)) (key : κ) :
    sent (transfer :: rest) key =
      (if transfer.source = key then transfer.amount else 0) + sent rest key := rfl

theorem received_cons (transfer : Transfer κ) (rest : List (Transfer κ)) (key : κ) :
    received (transfer :: rest) key =
      (if transfer.target = key then transfer.amount else 0) + received rest key := rfl

theorem sent_append (first second : List (Transfer κ)) (key : κ) :
    sent (first ++ second) key = sent first key + sent second key := by
  rw [sent, List.map_append, List.sum_append]
  rfl

theorem received_append (first second : List (Transfer κ)) (key : κ) :
    received (first ++ second) key = received first key + received second key := by
  rw [received, List.map_append, List.sum_append]
  rfl

theorem le_sent {transfer : Transfer κ} (member : transfer ∈ transfers) :
    transfer.amount ≤ sent transfers transfer.source := by
  induction transfers with
  | nil => cases member
  | cons first rest ih =>
      rw [sent_cons]
      rcases List.mem_cons.mp member with rfl | later
      · rw [if_pos rfl]
        exact Nat.le_add_right _ _
      · exact Nat.le_add_left_of_le (ih later)

theorem le_received {transfer : Transfer κ} (member : transfer ∈ transfers) :
    transfer.amount ≤ received transfers transfer.target := by
  induction transfers with
  | nil => cases member
  | cons first rest ih =>
      rw [received_cons]
      rcases List.mem_cons.mp member with rfl | later
      · rw [if_pos rfl]
        exact Nat.le_add_right _ _
      · exact Nat.le_add_left_of_le (ih later)

/-- Whoever sends something is the source of a transfer. -/
theorem exists_source (some : 0 < sent transfers key) : ∃ transfer ∈ transfers, transfer.source = key := by
  induction transfers with
  | nil => cases some
  | cons first rest ih =>
      by_cases here : first.source = key
      · exact ⟨first, List.mem_cons_self, here⟩
      · rw [sent_cons, if_neg here, Nat.zero_add] at some
        obtain ⟨transfer, member, atKey⟩ := ih some
        exact ⟨transfer, List.mem_cons_of_mem first member, atKey⟩

theorem exists_target (some : 0 < received transfers key) :
    ∃ transfer ∈ transfers, transfer.target = key := by
  induction transfers with
  | nil => cases some
  | cons first rest ih =>
      by_cases here : first.target = key
      · exact ⟨first, List.mem_cons_self, here⟩
      · rw [received_cons, if_neg here, Nat.zero_add] at some
        obtain ⟨transfer, member, atKey⟩ := ih some
        exact ⟨transfer, List.mem_cons_of_mem first member, atKey⟩

theorem sent_eq_zero (others : ∀ transfer ∈ transfers, transfer.source ≠ key) :
    sent transfers key = 0 := by
  refine Nat.eq_zero_of_not_pos ?_
  intro some
  obtain ⟨transfer, member, atKey⟩ := exists_source some
  exact others transfer member atKey

theorem received_eq_zero (others : ∀ transfer ∈ transfers, transfer.target ≠ key) :
    received transfers key = 0 := by
  refine Nat.eq_zero_of_not_pos ?_
  intro some
  obtain ⟨transfer, member, atKey⟩ := exists_target some
  exact others transfer member atKey

/-- A key that receives nothing only loses what it sends. -/
theorem settled_of_sender (noneReceived : received transfers key = 0)
    (covered : sent transfers key ≤ balance) :
    settled transfers key balance + sent transfers key = balance := by
  induction transfers generalizing balance with
  | nil => rfl
  | cons first rest ih =>
      rw [received_cons, Nat.add_eq_zero_iff] at noneReceived
      rw [sent_cons] at covered ⊢
      rw [settled, List.foldl_cons, settleOne]
      by_cases isSource : first.source = key
      · simp only [if_pos isSource] at covered ⊢
        have covers : sent rest key ≤ balance - first.amount := by omega
        have later := ih noneReceived.2 covers
        rw [settled] at later
        omega
      · simp only [if_neg isSource] at covered ⊢
        have unchanged : (if first.target = key then balance + first.amount else balance) =
            balance := by
          by_cases isTarget : first.target = key
          · have nothing := noneReceived.1
            rw [if_pos isTarget] at nothing
            rw [if_pos isTarget, nothing, Nat.add_zero]
          · exact if_neg isTarget
        have covers : sent rest key ≤ balance := by omega
        have later := ih noneReceived.2 covers
        rw [settled] at later
        rw [unchanged]
        omega

theorem settled_of_receiver (noneSent : sent transfers key = 0) :
    settled transfers key balance = balance + received transfers key := by
  induction transfers generalizing balance with
  | nil => rfl
  | cons first rest ih =>
      rw [sent_cons, Nat.add_eq_zero_iff] at noneSent
      have after : settleOne key balance first =
          balance + if first.target = key then first.amount else 0 := by
        unfold settleOne
        by_cases isSource : first.source = key
        · have nothing := noneSent.1
          rw [if_pos isSource] at nothing
          rw [if_pos isSource, nothing]
          simp
        · rw [if_neg isSource]
          split <;> rfl
      have later : settled rest key (settleOne key balance first) =
          settleOne key balance first + received rest key := ih noneSent.2
      rw [settled] at later
      rw [settled, List.foldl_cons, later, after, received_cons, Nat.add_assoc]

end Batch

/-- Senders stay at or above their level, receivers at or below it. -/
structure Levelled (level balance : κ → Nat) (transfers : List (Transfer κ)) : Prop where
  amounts : ∀ transfer ∈ transfers, 0 < transfer.amount
  senders : ∀ key, 0 < sent transfers key → level key + sent transfers key ≤ balance key
  receivers : ∀ key, 0 < received transfers key → balance key + received transfers key ≤ level key

section Levels

variable {level balance : κ → Nat} {transfers : List (Transfer κ)}

theorem Levelled.append_left {first second : List (Transfer κ)}
    (levelled : Levelled level balance (first ++ second)) : Levelled level balance first := by
  refine ⟨?_, ?_, ?_⟩
  · intro transfer member
    exact levelled.amounts transfer (List.mem_append_left second member)
  · intro key some
    have whole := levelled.senders key
    rw [sent_append] at whole
    have bound := whole (by omega)
    omega
  · intro key some
    have whole := levelled.receivers key
    rw [received_append] at whole
    have bound := whole (by omega)
    omega

/-- No key both sends and receives. -/
theorem Levelled.one_way (levelled : Levelled level balance transfers) (key : κ) :
    sent transfers key = 0 ∨ received transfers key = 0 := by
  have asSender := levelled.senders key
  have asReceiver := levelled.receivers key
  omega

theorem Levelled.settled_add (levelled : Levelled level balance transfers) (key : κ) :
    settled transfers key (balance key) + sent transfers key =
      balance key + received transfers key := by
  rcases levelled.one_way key with noneSent | noneReceived
  · rw [settled_of_receiver noneSent, noneSent]
    rfl
  · have covered : sent transfers key ≤ balance key := by
      have asSender := levelled.senders key
      omega
    rw [settled_of_sender noneReceived covered, noneReceived]
    rfl

theorem Levelled.above (levelled : Levelled level balance transfers) {key : κ}
    (atLeast : level key ≤ balance key) : level key ≤ settled transfers key (balance key) := by
  have after := levelled.settled_add key
  have asSender := levelled.senders key
  omega

theorem Levelled.below (levelled : Levelled level balance transfers) {key : κ}
    (atMost : balance key ≤ level key) : settled transfers key (balance key) ≤ level key := by
  have after := levelled.settled_add key
  have asReceiver := levelled.receivers key
  omega

/-- What lies above the level shrinks by what is sent. -/
theorem Levelled.excess (levelled : Levelled level balance transfers) (key : κ) :
    (settled transfers key (balance key) - level key) + sent transfers key =
      balance key - level key := by
  have after := levelled.settled_add key
  have asSender := levelled.senders key
  have asReceiver := levelled.receivers key
  have either := levelled.one_way key
  omega

variable {keys : Finset κ}

theorem sum_sent (inside : ∀ transfer ∈ transfers, transfer.source ∈ keys) :
    ∑ key ∈ keys, sent transfers key = (transfers.map Transfer.amount).sum := by
  induction transfers with
  | nil => exact Finset.sum_const_zero
  | cons first rest ih =>
      have later := ih (fun transfer member => inside transfer (List.mem_cons_of_mem first member))
      simp only [sent_cons, Finset.sum_add_distrib, later, List.map_cons, List.sum_cons]
      rw [Finset.sum_ite_eq, if_pos (inside first List.mem_cons_self)]

theorem sum_received (inside : ∀ transfer ∈ transfers, transfer.target ∈ keys) :
    ∑ key ∈ keys, received transfers key = (transfers.map Transfer.amount).sum := by
  induction transfers with
  | nil => exact Finset.sum_const_zero
  | cons first rest ih =>
      have later := ih (fun transfer member => inside transfer (List.mem_cons_of_mem first member))
      simp only [received_cons, Finset.sum_add_distrib, later, List.map_cons, List.sum_cons]
      rw [Finset.sum_ite_eq, if_pos (inside first List.mem_cons_self)]

/-- Within supply and demand, transfers that use up the one or the other amount to the lesser of
the two. -/
theorem sum_amounts_eq_min {senders receivers : Finset κ} {supply demand : κ → Nat}
    (sources : ∀ transfer ∈ transfers, transfer.source ∈ senders)
    (targets : ∀ transfer ∈ transfers, transfer.target ∈ receivers)
    (covered : ∀ key ∈ senders, sent transfers key ≤ supply key)
    (fits : ∀ key ∈ receivers, received transfers key ≤ demand key)
    (exhausts : (∀ key ∈ senders, sent transfers key = supply key) ∨
      ∀ key ∈ receivers, received transfers key = demand key) :
    (transfers.map Transfer.amount).sum =
      min (∑ key ∈ senders, supply key) (∑ key ∈ receivers, demand key) := by
  have supplied : ∑ key ∈ senders, sent transfers key ≤ ∑ key ∈ senders, supply key :=
    Finset.sum_le_sum covered
  have demanded : ∑ key ∈ receivers, received transfers key ≤ ∑ key ∈ receivers, demand key :=
    Finset.sum_le_sum fits
  rw [sum_sent sources] at supplied
  rw [sum_received targets] at demanded
  rcases exhausts with all | full
  · have same : ∑ key ∈ senders, sent transfers key = ∑ key ∈ senders, supply key :=
      Finset.sum_congr rfl all
    rw [sum_sent sources] at same
    rw [← same, Nat.min_eq_left demanded]
  · have same : ∑ key ∈ receivers, received transfers key = ∑ key ∈ receivers, demand key :=
      Finset.sum_congr rfl full
    rw [sum_received targets] at same
    rw [← same, Nat.min_eq_right supplied]

/-- Transfers among the keys keep the total. -/
theorem Levelled.sum_settled (levelled : Levelled level balance transfers)
    (sources : ∀ transfer ∈ transfers, transfer.source ∈ keys)
    (targets : ∀ transfer ∈ transfers, transfer.target ∈ keys) :
    ∑ key ∈ keys, settled transfers key (balance key) = ∑ key ∈ keys, balance key := by
  have each : ∑ key ∈ keys, (settled transfers key (balance key) + sent transfers key) =
      ∑ key ∈ keys, (balance key + received transfers key) :=
    Finset.sum_congr rfl (fun key _ => levelled.settled_add key)
  rw [Finset.sum_add_distrib, Finset.sum_add_distrib, sum_sent sources, sum_received targets] at each
  omega

end Levels

/-! ### Batch after batch -/

/-- Every batch is levelled for the balances that the earlier ones leave. -/
structure Rounds (level : κ → Nat) (balances : Nat → κ → Nat)
    (transfers : Nat → List (Transfer κ)) : Prop where
  levelled : ∀ round, Levelled level (balances round) (transfers round)
  settles : ∀ round key, balances (round + 1) key =
    settled (transfers round) key (balances round key)

section Rounds

variable {level : κ → Nat} {balances : Nat → κ → Nat} {transfers : Nat → List (Transfer κ)}

theorem Rounds.stays_above (rounds : Rounds level balances transfers) {key : κ} {first : Nat}
    (atLeast : level key ≤ balances first key) (later : Nat) :
    level key ≤ balances (first + later) key := by
  induction later with
  | zero => exact atLeast
  | succ later ih =>
      rw [← Nat.add_assoc, rounds.settles]
      exact (rounds.levelled _).above ih

theorem Rounds.stays_below (rounds : Rounds level balances transfers) {key : κ} {first : Nat}
    (atMost : balances first key ≤ level key) (later : Nat) :
    balances (first + later) key ≤ level key := by
  induction later with
  | zero => exact atMost
  | succ later ih =>
      rw [← Nat.add_assoc, rounds.settles]
      exact (rounds.levelled _).below ih

/-- Nobody sends in one round and receives in another. -/
theorem Rounds.roles_apart (rounds : Rounds level balances transfers) {first second : Nat}
    {sending receiving : Transfer κ} (sends : sending ∈ transfers first)
    (receives : receiving ∈ transfers second) : sending.source ≠ receiving.target := by
  intro same
  have sender : level sending.source < balances first sending.source := by
    have amount := (rounds.levelled first).amounts sending sends
    have least := le_sent sends
    have bound := (rounds.levelled first).senders sending.source (by omega)
    omega
  have receiver : balances second sending.source < level sending.source := by
    have amount := (rounds.levelled second).amounts receiving receives
    have least := le_received receives
    rw [← same] at least
    have bound := (rounds.levelled second).receivers sending.source (by omega)
    omega
  rcases Nat.le_total first second with before | after
  · obtain ⟨distance, rfl⟩ := Nat.exists_eq_add_of_le before
    have kept := rounds.stays_above sender.le distance
    omega
  · obtain ⟨distance, rfl⟩ := Nat.exists_eq_add_of_le after
    have kept := rounds.stays_below receiver.le distance
    omega

variable {keys : Finset κ}

theorem Rounds.sum_eq (rounds : Rounds level balances transfers)
    (sources : ∀ round, ∀ transfer ∈ transfers round, transfer.source ∈ keys)
    (targets : ∀ round, ∀ transfer ∈ transfers round, transfer.target ∈ keys) (round : Nat) :
    ∑ key ∈ keys, balances round key = ∑ key ∈ keys, balances 0 key := by
  induction round with
  | zero => rfl
  | succ round ih =>
      simp only [rounds.settles]
      rw [(rounds.levelled round).sum_settled (sources round) (targets round), ih]

/-- After at most as many rounds as there lies above the levels, a batch is empty. -/
theorem Rounds.exists_empty (rounds : Rounds level balances transfers)
    (sources : ∀ round, ∀ transfer ∈ transfers round, transfer.source ∈ keys) :
    ∃ round, transfers round = [] := by
  by_contra never
  rw [not_exists] at never
  have shrinks : ∀ round, (∑ key ∈ keys, (balances round key - level key)) + round ≤
      ∑ key ∈ keys, (balances 0 key - level key) := by
    intro round
    induction round with
    | zero => exact Nat.le_refl _
    | succ round ih =>
        have each : ∑ key ∈ keys, ((balances (round + 1) key - level key) +
            sent (transfers round) key) = ∑ key ∈ keys, (balances round key - level key) := by
          refine Finset.sum_congr rfl (fun key _ => ?_)
          rw [rounds.settles]
          exact (rounds.levelled round).excess key
        rw [Finset.sum_add_distrib, sum_sent (sources round)] at each
        have moved : 0 < ((transfers round).map Transfer.amount).sum := by
          obtain ⟨first, rest, isBatch⟩ := List.exists_cons_of_ne_nil (never round)
          have amount := (rounds.levelled round).amounts first
            (by rw [isBatch]; exact List.mem_cons_self)
          rw [isBatch, List.map_cons, List.sum_cons]
          omega
        omega
  have impossible := shrinks ((∑ key ∈ keys, (balances 0 key - level key)) + 1)
  omega

end Rounds

end Transfers

end VpnSuite.Foundations
