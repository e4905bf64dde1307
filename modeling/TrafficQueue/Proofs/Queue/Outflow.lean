import Mathlib.Data.Rat.Cast.Order
import Mathlib.Tactic.Linarith
import Mathlib.Tactic.Ring
import TrafficQueue.Proofs.Queue.Turns

/-!
# How many vehicles leave in a window

The flow bucket of a link lets vehicles leave at its share per step, also if the share
is a fraction of a vehicle.  In exact numbers the bucket is never overdrawn by a whole
vehicle and never holds more than one share.  So over any number of steps no more
vehicles are released than the shares pay for and one; and if the head of the link is
held back in every step by the flow alone, they are no fewer than that less one, up to
the tolerance for rounding, which is lost once a step at most.

Main results:

- Definition `FlowBucket.InRange`: between overdraft and share.
- Theorem `CallEffect.flow`: what a call does to the bucket of a link.
- Theorems `QueueNetwork.released_add_lt` and `QueueNetwork.le_released`: the balance of
  a bucket over any calls.
- Theorem `QueueNetwork.outflow_within_one`: the flow of a link over any window.
-/

namespace TrafficQueue

/-! ## Exact buckets -/

/-- The tolerance for rounding, as an exact number. -/
def exactTolerance : ℚ := 1 / 1000000000

/-- Exact shares of vehicles. -/
instance : FlowNumber ℚ where
  add a b := a + b
  least a b := min a b
  spend a := a - 1
  isOpen a := exactTolerance < a

theorem exactTolerance_pos : 0 < exactTolerance := by
  norm_num [exactTolerance]

theorem exactTolerance_lt_one : exactTolerance < 1 := by
  norm_num [exactTolerance]

namespace FlowBucket

variable {b : FlowBucket ℚ}

/-- The bucket has a share, lacks less than a vehicle and holds a share at most. -/
structure InRange (b : FlowBucket ℚ) : Prop where
  share_pos : 0 < b.perStep
  overdraft : exactTolerance - 1 < b.accumulated
  le_share : b.accumulated ≤ b.perStep

/-- The bucket lets a vehicle leave when it has more than the tolerance. -/
theorem isOpen_iff : b.isOpen = true ↔ exactTolerance < b.accumulated :=
  decide_eq_true_iff

/-- The bucket holds back when it has no more than the tolerance. -/
theorem isOpen_eq_false_iff : b.isOpen = false ↔ b.accumulated ≤ exactTolerance := by
  rw [← Bool.not_eq_true, isOpen_iff, not_lt]

/-- A step adds a share, up to a share. -/
theorem accumulated_refill (b : FlowBucket ℚ) :
    b.refill.accumulated = min (b.accumulated + b.perStep) b.perStep :=
  rfl

/-- A vehicle takes one from the bucket. -/
theorem accumulated_spend (b : FlowBucket ℚ) : b.spend.accumulated = b.accumulated - 1 :=
  rfl

/-- A full bucket is in range. -/
theorem inRange_full {share : ℚ} (h : 0 < share) : (full share).InRange := by
  have hlt := exactTolerance_lt_one
  refine ⟨h, ?_, le_refl _⟩
  change exactTolerance - 1 < share
  linarith

namespace InRange

/-- A new share makes up for any overdraft. -/
theorem refill (h : b.InRange) : b.refill.InRange := by
  have hlt := exactTolerance_lt_one
  have hpos := h.share_pos
  have hlow := h.overdraft
  refine ⟨hpos, ?_, ?_⟩
  · rw [accumulated_refill, lt_min_iff]
    constructor <;> linarith
  · rw [accumulated_refill]
    exact min_le_right _ _

/-- Only an open bucket is spent from, so it lacks less than a vehicle afterwards. -/
theorem spend (h : b.InRange) (hopen : b.isOpen = true) : b.spend.InRange := by
  have hlt := isOpen_iff.1 hopen
  have hle := h.le_share
  refine ⟨h.share_pos, ?_, ?_⟩
  · rw [accumulated_spend]
    linarith
  · rw [accumulated_spend, perStep_spend]
    linarith

end InRange

end FlowBucket

/-! ## Released vehicles -/

/-- The number of steps that begin with one of the calls. -/
def QueueCall.steps (calls : List QueueCall) : Nat := calls.countP isUpdate

/-- Only the start of a step adds to the number of steps. -/
theorem QueueCall.steps_cons (c : QueueCall) (calls : List QueueCall) :
    steps (c :: calls) = steps calls + if c.isUpdate = true then 1 else 0 :=
  List.countP_cons

/-- Who leaves a link by a call and its answer; who is evicted is not released. -/
def QueueCall.releases (l : LinkId) : QueueCall → QueueAnswer → List Vehicle
  | .release m _ _, .left (some v) => if m = l then [v] else []
  | _, _ => []

namespace QueueNetwork

section Calls

variable {α : Type} [FlowNumber α]

/-- Who is released from a link by calls, in order. -/
def released (l : LinkId) : QueueNetwork α → List QueueCall → List Vehicle
  | _, [] => []
  | n, c :: calls => c.releases l (n.perform c).1 ++ released l (n.perform c).2 calls

/-- The call asks for the head of the link, which is due and has room downstream, and is told that
it stays. -/
def LacksFlow (l : LinkId) (n : QueueNetwork α) : QueueCall → Prop
  | .release m now d =>
    m = l ∧ (∃ e ∈ n.head? l, e.earliestExit ≤ now) ∧ n.downstreamRoom d = .ok true ∧
      (n.release m now d).map Prod.fst = .ok none
  | _ => False

/-- The flow at the link of a call can be checked. -/
instance (l : LinkId) (n : QueueNetwork α) : (c : QueueCall) → Decidable (n.LacksFlow l c)
  | .release _ _ _ => inferInstanceAs (Decidable (_ ∧ _ ∧ _ ∧ _))
  | .enqueue _ _ _ | .depart _ _ _ | .update _ | .evict _ => inferInstanceAs (Decidable False)

/-- Before the next step begins, the head of the link is asked for in vain: it lacks flow. -/
def RunsDry (l : LinkId) : QueueNetwork α → List QueueCall → Prop
  | _, [] => False
  | n, c :: calls =>
    n.LacksFlow l c ∨ (c.isUpdate = false ∧ RunsDry l (n.perform c).2 calls)

/-- It can be checked whether the link runs dry in calls. -/
instance decidableRunsDry (l : LinkId) :
    (n : QueueNetwork α) → (calls : List QueueCall) → Decidable (n.RunsDry l calls)
  | _, [] => inferInstanceAs (Decidable False)
  | n, c :: calls =>
    have := decidableRunsDry l (n.perform c).2 calls
    inferInstanceAs (Decidable (_ ∨ (_ ∧ _)))

/-- In every step that begins with one of the calls, the link runs dry. -/
def AlwaysRunsDry (l : LinkId) : QueueNetwork α → List QueueCall → Prop
  | _, [] => True
  | n, c :: calls =>
    (c.isUpdate = true → RunsDry l (n.perform c).2 calls) ∧
      AlwaysRunsDry l (n.perform c).2 calls

/-- It can be checked whether the link runs dry at every step. -/
instance decidableAlwaysRunsDry (l : LinkId) :
    (n : QueueNetwork α) → (calls : List QueueCall) → Decidable (n.AlwaysRunsDry l calls)
  | _, [] => inferInstanceAs (Decidable True)
  | n, c :: calls =>
    have := decidableAlwaysRunsDry l (n.perform c).2 calls
    inferInstanceAs (Decidable ((_ → _) ∧ _))

end Calls

end QueueNetwork

/-! ## What a call does to a bucket -/

section Change

variable {α : Type} [FlowNumber α]

/-- What a call can do to the bucket of a link: it is an update, or it releases vehicles, or the
bucket stays as it is. -/
inductive FlowChange (b : FlowBucket α) : Bool → List Vehicle → FlowBucket α → Prop where
  | refill : FlowChange b true [] b.refill
  | spend {v} (hopen : b.isOpen = true) : FlowChange b false [v] b.spend
  | keep : FlowChange b false [] b

/-- What happens to a link is one of these changes to its bucket. -/
theorem LinkChange.flow {q q' : LinkQueue α} {h h' : LinkLedger} (hchange : LinkChange q h q' h') :
    ∃ update vs, FlowChange q.flow update vs q'.flow := by
  cases hchange with
  | update =>
      rw [LinkQueue.flow_update]
      exact ⟨true, [], .refill⟩
  | @release e _ _ hqueue hdue hopen => exact ⟨false, [e.vehicle], .spend hopen⟩
  | idle | enter | depart | wait | evict => exact ⟨false, [], .keep⟩

variable {n : QueueNetwork α} {l m : LinkId} {q q₀ r : LinkQueue α}

/-- An effect on one link changes no other bucket. -/
theorem flow_set {vs : List Vehicle} (hq : n.link? l = some q) (hm : n.link? m = some q₀)
    (hchange : FlowChange q₀.flow false vs r.flow) :
    ∃ q', (n.set m r).link? l = some q' ∧
      FlowChange q.flow false (if m = l then vs else []) q'.flow := by
  by_cases hml : m = l
  · subst hml
    cases hq.symm.trans hm
    rw [if_pos rfl]
    exact ⟨r, QueueNetwork.link_set_self hm, hchange⟩
  · rw [if_neg hml]
    exact ⟨q, (QueueNetwork.link_set_of_ne hml).trans hq, .keep⟩

/-- Whoever enters, waits or is evicted leaves all buckets as they are. -/
theorem flow_set_keep (hq : n.link? l = some q) (hm : n.link? m = some q₀)
    (hflow : r.flow = q₀.flow) :
    ∃ q', (n.set m r).link? l = some q' ∧ FlowChange q.flow false [] q'.flow := by
  have hchange : FlowChange q₀.flow false [] r.flow := hflow ▸ .keep
  simpa using flow_set hq hm hchange

/-- A call that is refused releases nobody. -/
theorem QueueCall.releases_refused (l : LinkId) (c : QueueCall) (e : QueueError) :
    c.releases l (.refused e) = [] := by
  cases c <;> rfl

/-- What an effect on the queues does to the bucket of a link. -/
theorem CallEffect.flow {n' : QueueNetwork α} {c : QueueCall} {answer : QueueAnswer}
    (heffect : CallEffect n c answer n') (hq : n.link? l = some q) :
    ∃ q', n'.link? l = some q' ∧
      FlowChange q.flow c.isUpdate (c.releases l answer) q'.flow := by
  cases heffect with
  | refuse hcall =>
      rw [hcall, QueueCall.releases_refused]
      exact ⟨q, hq, .keep⟩
  | enter hm hspace => exact flow_set_keep hq hm rfl
  | depart hm hspace hwaiting => exact flow_set_keep hq hm rfl
  | wait hm hfull => exact flow_set_keep hq hm rfl
  | @update now =>
      refine ⟨q.update now, ?_, ?_⟩
      · rw [QueueNetwork.link?_update, hq, Option.map_some]
      · rw [LinkQueue.flow_update]
        exact .refill
  | release hm hqueue hdue hopen hroom => exact flow_set hq hm (.spend hopen)
  | stay hstay => exact ⟨q, hq, .keep⟩
  | evict hm hqueue => exact flow_set_keep hq hm rfl
  | nobody hm hempty => exact flow_set_keep hq hm rfl

end Change

/-! ## The balance of a bucket -/

namespace FlowChange

variable {b b' : FlowBucket ℚ} {update : Bool} {vs : List Vehicle}

/-- The share of a step stays as it is. -/
theorem perStep_eq (h : FlowChange b update vs b') : b'.perStep = b.perStep := by
  cases h <;> rfl

/-- The bucket stays in range. -/
theorem inRange (h : FlowChange b update vs b') (hb : b.InRange) : b'.InRange := by
  cases h with
  | refill => exact hb.refill
  | spend hopen => exact hb.spend hopen
  | keep => exact hb

/-- Only an update opens a bucket. -/
theorem isOpen_eq_false (h : FlowChange b false vs b') (hb : b.isOpen = false) :
    b'.isOpen = false := by
  cases h with
  | spend hopen => exact (Bool.false_ne_true (hb.symm.trans hopen)).elim
  | keep => exact hb

/-- A vehicle costs a unit, and an update brings a share at most. -/
theorem length_add_le (h : FlowChange b update vs b') :
    (vs.length : ℚ) + b'.accumulated ≤
      b.accumulated + ((if update = true then 1 else 0 : ℕ) : ℚ) * b.perStep := by
  cases h with
  | refill =>
      have hle : b.refill.accumulated ≤ b.accumulated + b.perStep := min_le_left _ _
      simpa using hle
  | spend hopen => simp [FlowBucket.accumulated_spend]
  | keep => simp

/-- An update of a closed bucket brings the whole share, but for the tolerance. -/
theorem le_length_add (h : FlowChange b update vs b')
    (hclosed : update = true → b.isOpen = false) :
    b.accumulated + ((if update = true then 1 else 0 : ℕ) : ℚ) * (b.perStep - exactTolerance) ≤
      (vs.length : ℚ) + b'.accumulated := by
  cases h with
  | refill =>
      have hle := FlowBucket.isOpen_eq_false_iff.1 (hclosed rfl)
      have hpos := exactTolerance_pos
      have hfull : b.accumulated + (b.perStep - exactTolerance) ≤ b.refill.accumulated := by
        rw [FlowBucket.accumulated_refill, le_min_iff]
        constructor <;> linarith
      simpa using hfull
  | spend hopen => simp [FlowBucket.accumulated_spend]
  | keep => simp

end FlowChange

namespace QueueNetwork

variable {n : QueueNetwork ℚ} {l : LinkId} {q : LinkQueue ℚ}

/-- Released vehicles are paid for by what the bucket holds and a share for each step; less than a
vehicle is on credit. -/
theorem released_add_lt (hq : n.link? l = some q) (hrange : q.flow.InRange)
    (calls : List QueueCall) :
    ((n.released l calls).length : ℚ) + (exactTolerance - 1) <
      q.flow.accumulated + QueueCall.steps calls * q.flow.perStep := by
  induction calls generalizing n q with
  | nil =>
      have hlow := hrange.overdraft
      simpa [released, QueueCall.steps] using hlow
  | cons c calls ih =>
      rcases (n.perform_effect c).flow hq with ⟨q', hq', hchange⟩
      have hfirst := hchange.length_add_le
      have hrest := ih hq' (hchange.inRange hrange)
      rw [hchange.perStep_eq] at hrest
      rw [released, List.length_append, QueueCall.steps_cons]
      push_cast at hfirst ⊢
      linarith

/-- A call that finds the flow lacking finds the bucket closed. -/
theorem isOpen_of_lacksFlow {c : QueueCall} (hq : n.link? l = some q) (h : n.LacksFlow l c) :
    q.flow.isOpen = false := by
  cases c with
  | release m now d =>
      rcases h with ⟨rfl, ⟨e, he, hdue⟩, hroom, hstays⟩
      rw [Option.mem_def] at he
      rcases head?_eq_some_iff.1 he with ⟨q₀, es, hq₀, hes⟩
      cases hq.symm.trans hq₀
      by_contra hopen
      have hleaves : n.release m now d = .ok (some e.vehicle, _) :=
        release_eq_some_iff.2 ⟨q, e, es, hq, hes, hdue, by simpa using hopen, hroom, rfl, rfl⟩
      simp [hleaves, Except.map] at hstays
  | enqueue v m now => exact h.elim
  | depart v m now => exact h.elim
  | update now => exact h.elim
  | evict m => exact h.elim

/-- Where a link runs dry in every step, every share is used up, but for the tolerance. -/
theorem le_released (hq : n.link? l = some q) {calls : List QueueCall}
    (hnow : q.flow.isOpen = false ∨ n.RunsDry l calls) (hdry : n.AlwaysRunsDry l calls) :
    q.flow.accumulated + QueueCall.steps calls * (q.flow.perStep - exactTolerance) ≤
      (n.released l calls).length + exactTolerance := by
  induction calls generalizing n q with
  | nil =>
      rcases hnow with hclosed | hruns
      · simpa [released, QueueCall.steps] using FlowBucket.isOpen_eq_false_iff.1 hclosed
      · exact hruns.elim
  | cons c calls ih =>
      rcases (n.perform_effect c).flow hq with ⟨q', hq', hchange⟩
      have hclosed : c.isUpdate = true → q.flow.isOpen = false := by
        intro hupdate
        rcases hnow with hclosed | hlacks | ⟨hno, -⟩
        · exact hclosed
        · exact isOpen_of_lacksFlow hq hlacks
        · exact (Bool.false_ne_true (hno.symm.trans hupdate)).elim
      -- the bucket is closed until the next step, or will be before it
      have hnext : q'.flow.isOpen = false ∨ (n.perform c).2.RunsDry l calls := by
        cases hupdate : c.isUpdate with
        | true => exact .inr (hdry.1 hupdate)
        | false =>
            rw [hupdate] at hchange
            rcases hnow with hclosed | hlacks | ⟨-, hruns⟩
            · exact .inl (hchange.isOpen_eq_false hclosed)
            · exact .inl (hchange.isOpen_eq_false (isOpen_of_lacksFlow hq hlacks))
            · exact .inr hruns
      have hfirst := hchange.le_length_add hclosed
      have hrest := ih hq' hnext hdry.2
      rw [hchange.perStep_eq] at hrest
      rw [released, List.length_append, QueueCall.steps_cons]
      push_cast at hfirst ⊢
      linarith

/-! ## Windows -/

/-- The queues of a network after calls, with exact buckets that begin full. -/
def exactAfter (net : Network) (share : Link → ℚ) (storageFactor : Float)
    (calls : List QueueCall) : QueueNetwork ℚ :=
  (QueueHistory.of (withBuckets (fun link => .full (share link)) net storageFactor) calls).queues

/-- Whatever is asked of the queues, their buckets stay in range. -/
theorem exists_inRange (net : Network) (share : Link → ℚ) (storageFactor : Float)
    (calls : List QueueCall) {link : Link} (hlink : net.link? l = some link)
    (hshare : 0 < share link) :
    ∃ q, (exactAfter net share storageFactor calls).link? l = some q ∧ q.flow.InRange ∧
      q.flow.perStep = share link := by
  refine QueueHistory.invariant
    (P := fun q _ => q.flow.InRange ∧ q.flow.perStep = share link)
    (by rw [link?_withBuckets, hlink]; rfl) ?_ ?_ calls
  · exact ⟨FlowBucket.inRange_full hshare, rfl⟩
  · rintro q h q' h' ⟨hrange, hequal⟩ hchange
    rcases hchange.flow with ⟨update, vs, hflow⟩
    exact ⟨hflow.inRange hrange, hflow.perStep_eq.trans hequal⟩

/-- Over any window that begins with a step, a link releases less than one vehicle more than the
shares of the steps pay for, and if it runs dry in every step, less than one vehicle fewer, up to
the tolerance. -/
theorem outflow_within_one {net : Network} {share : Link → ℚ} {storageFactor : Float}
    {before : List QueueCall} {n : QueueNetwork ℚ} {l : LinkId} {link : Link}
    (hn : exactAfter net share storageFactor before = n) (hlink : net.link? l = some link)
    (hshare : 0 < share link) (now : Time) (window : List QueueCall) :
    ((n.released l (.update now :: window)).length : ℚ) <
        QueueCall.steps (.update now :: window) * share link + 1 ∧
      (n.AlwaysRunsDry l (.update now :: window) →
        QueueCall.steps (.update now :: window) * share link - 1 -
            QueueCall.steps (.update now :: window) * exactTolerance <
          (n.released l (.update now :: window)).length) := by
  rcases exists_inRange net share storageFactor before hlink hshare with ⟨q, hq, hrange, hequal⟩
  rw [hn] at hq
  -- the first step leaves a share in the bucket at most, and more than that less a vehicle
  have hfirst : (n.perform (.update now)).2.link? l = some (q.update now) := by
    simp only [perform, link?_update, hq, Option.map_some]
  have hreleased : n.released l (.update now :: window) =
      (n.perform (.update now)).2.released l window := List.nil_append _
  have hsteps : (QueueCall.steps (.update now :: window) : ℚ) = QueueCall.steps window + 1 := by
    simp [QueueCall.steps_cons, QueueCall.isUpdate]
  have hflow : (q.update now).flow = q.flow.refill := q.flow_update now
  rw [hreleased, hsteps]
  constructor
  · have hle := hrange.refill.le_share
    have hbound := released_add_lt hfirst (hflow ▸ hrange.refill) window
    rw [hflow] at hbound
    rw [FlowBucket.perStep_refill, hequal] at hbound hle
    have hpos := exactTolerance_pos
    linarith
  · intro hdry
    have hlow : share link - 1 + exactTolerance < q.flow.refill.accumulated := by
      have hdraft := hrange.overdraft
      have hlt := exactTolerance_lt_one
      rw [FlowBucket.accumulated_refill, hequal, lt_min_iff]
      constructor <;> linarith
    have hbound := le_released hfirst (.inr (hdry.1 rfl)) hdry.2
    rw [hflow, FlowBucket.perStep_refill, hequal] at hbound
    have hpos := exactTolerance_pos
    linarith

/-! ## Two vehicles on a road that lets one vehicle leave in every other step -/

namespace Halved

/-- Half a vehicle per step. -/
def share : Link → ℚ := fun _ => 1 / 2

/-- The queues with this share. -/
def queues : QueueNetwork ℚ :=
  exactAfter Commuter.net share 2
    [.enqueue ⟨⟨0⟩, ⟨0⟩⟩ ⟨0⟩ .zero, .enqueue ⟨⟨1⟩, ⟨1⟩⟩ ⟨0⟩ .zero]

/-- What is asked after a step has begun: the head leaves until it lacks flow, also in the next
step. -/
def window : List QueueCall :=
  [.release ⟨0⟩ (.ofSecs 10) .exit, .release ⟨0⟩ (.ofSecs 10) .exit, .update (.ofSecs 11),
    .release ⟨0⟩ (.ofSecs 11) .exit]

end Halved

/-- At half a vehicle per step the number of vehicles in a window is within one of its share. -/
theorem outflow_within_one_halved :
    Commuter.net.link? ⟨0⟩ = some (Commuter.road "there" 0 1).settle ∧
      0 < Halved.share (Commuter.road "there" 0 1).settle ∧
      Halved.queues.AlwaysRunsDry ⟨0⟩ (.update (.ofSecs 10) :: Halved.window) ∧
      ((Halved.queues.released ⟨0⟩ (.update (.ofSecs 10) :: Halved.window)).length : ℚ) <
        QueueCall.steps (.update (.ofSecs 10) :: Halved.window) * (1 / 2) + 1 ∧
      (QueueCall.steps (.update (.ofSecs 10) :: Halved.window) * (1 / 2) - 1 -
          QueueCall.steps (.update (.ofSecs 10) :: Halved.window) * exactTolerance : ℚ) <
        (Halved.queues.released ⟨0⟩ (.update (.ofSecs 10) :: Halved.window)).length := by
  have hlink : Commuter.net.link? ⟨0⟩ = some (Commuter.road "there" 0 1).settle := rfl
  have hshare : 0 < Halved.share (Commuter.road "there" 0 1).settle := by
    norm_num [Halved.share]
  have hdry : Halved.queues.AlwaysRunsDry ⟨0⟩ (.update (.ofSecs 10) :: Halved.window) := by
    decide +kernel
  have hqueues : exactAfter Commuter.net Halved.share 2 _ = Halved.queues := rfl
  rcases outflow_within_one hqueues hlink hshare (.ofSecs 10) Halved.window with ⟨hupper, hlower⟩
  exact ⟨hlink, hshare, hdry, hupper, hlower hdry⟩

example : QueueCall.steps (.update (.ofSecs 10) :: Halved.window) = 2 ∧
    Halved.queues.released ⟨0⟩ (.update (.ofSecs 10) :: Halved.window) = [⟨⟨0⟩, ⟨0⟩⟩] := by
  decide +kernel

end QueueNetwork

end TrafficQueue
