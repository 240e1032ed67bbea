import Mathlib.Data.List.Nodup
import Mathlib.Data.List.Pairwise
import Mathlib.Logic.Relation
import SoundSheet.Bus

/-!
# The course of a fan-out

A trigger computes in one go which listeners are called and which are on the bus
afterwards. Here the same is spelled out step by step, as it happens on the bus:
a fan-out takes the list of the bus, calls one listener after the other, and
puts those that were subscribed meanwhile behind them. Fan-outs that listeners
start stand on top of the one that called these listeners, so those under way
are a stack, and nothing bounds its height.

Listeners may be equal, so each subscription has a number of its own, and so has
each fan-out. The log tells who was subscribed, which fan-outs started and whom
they called, in this order in time.

What holds at every moment is `Course.Regular`. At its heart is an equation: the
lists of all fan-outs under way, from the outermost to the innermost, and then
the list of the bus are all listeners in the order in which they were
subscribed. A step moves listeners between these lists and never past each
other.
-/

namespace SoundSheet

/-- **A subscription**: a listener, and the number of its subscription. -/
structure Subscription where
  /-- How many were subscribed before. -/
  number : Nat
  /-- The listener. -/
  listener : Listener
  deriving DecidableEq

/-- The subscriptions of some listeners, numbered in order. -/
def subscriptions (listeners : List Listener) : List Subscription :=
  listeners.mapIdx Subscription.mk

theorem listener_subscriptions (listeners : List Listener) :
    (subscriptions listeners).map Subscription.listener = listeners := by
  refine List.ext_getElem (by simp [subscriptions]) fun i _ _ => ?_
  simp [subscriptions]

theorem number_subscriptions (listeners : List Listener) :
    (subscriptions listeners).map Subscription.number = List.range listeners.length := by
  refine List.ext_getElem (by simp [subscriptions]) fun i _ _ => ?_
  simp [subscriptions]

/-- **What happens on a bus**. -/
inductive BusEvent where
  /-- A listener is subscribed. -/
  | subscribed (sub : Subscription)
  /-- A fan-out of a value starts and takes the list of the bus. -/
  | started (fan : Nat) (value : Bool) (list : List Subscription)
  /-- A fan-out calls a listener with a value. -/
  | called (fan : Nat) (sub : Subscription) (value : Bool)
  deriving DecidableEq

namespace BusEvent

/-- The subscription that is made. -/
def subscription? : BusEvent → Option Subscription
  | subscribed sub => some sub
  | _ => none

/-- The fan-out that starts. -/
def start? : BusEvent → Option Nat
  | started fan _ _ => some fan
  | _ => none

/-- The listener that a fan-out calls, with the value. -/
def callBy? (fan : Nat) : BusEvent → Option (Subscription × Bool)
  | called fan' sub value => if fan' = fan then some (sub, value) else none
  | _ => none

/-- The call that is recorded. -/
def call? : BusEvent → Option Call
  | called _ sub value => some ⟨sub.listener.label, value⟩
  | _ => none

end BusEvent

/-- **A fan-out under way**. -/
structure ActiveFanOut where
  /-- How many fan-outs were started before. -/
  number : Nat
  /-- The value that it fans out. -/
  value : Bool
  /-- The listeners that it has called. -/
  called : List Subscription
  /-- What the last one of these has still to do. -/
  current : Action
  /-- The listeners that it will call. -/
  remaining : List Subscription

/-- The list that a fan-out took. -/
def ActiveFanOut.list (f : ActiveFanOut) : List Subscription :=
  f.called ++ f.remaining

/-- **A moment in the course of things on a bus**. -/
structure Course where
  /-- The list of the bus. -/
  bus : List Subscription
  /-- The fan-outs under way, the innermost first. -/
  active : List ActiveFanOut
  /-- What has happened so far. -/
  log : List BusEvent
  /-- How many subscriptions there were. -/
  subscribed : Nat
  /-- How many fan-outs there were. -/
  started : Nat

namespace Course

/-! ## Steps -/

/-- A bus with some listeners, where nothing has happened yet. -/
def ofListeners (listeners : List Listener) : Course :=
  ⟨subscriptions listeners, [], [], listeners.length, 0⟩

/-- A listener is subscribed. -/
def subscribe (c : Course) (l : Listener) : Course :=
  { c with
    bus := c.bus ++ [⟨c.subscribed, l⟩]
    log := c.log ++ [.subscribed ⟨c.subscribed, l⟩]
    subscribed := c.subscribed + 1 }

/-- A fan-out starts. -/
def trigger (c : Course) (value : Bool) : Course :=
  { c with
    bus := []
    active := ⟨c.started, value, [], .done, c.bus⟩ :: c.active
    log := c.log ++ [.started c.started value c.bus]
    started := c.started + 1 }

/-- The fan-out on top calls its next listener. -/
def call (c : Course) (f : ActiveFanOut) (sub : Subscription) (rest : List Subscription)
    (outer : List ActiveFanOut) : Course :=
  { c with
    active := { f with
      called := f.called ++ [sub]
      current := sub.listener.action f.value
      remaining := rest } :: outer
    log := c.log ++ [.called f.number sub f.value] }

/-- The fan-out on top ends. -/
def finish (c : Course) (f : ActiveFanOut) (outer : List ActiveFanOut) : Course :=
  { c with bus := f.called ++ c.bus, active := outer }

/-- **One step**. There is none when no fan-out is under way. -/
def step (c : Course) : Option Course :=
  match c.active with
  | [] => none
  | f :: outer =>
    match f.current with
    | .subscribe label on off next =>
      some (subscribe { c with active := { f with current := next } :: outer } ⟨label, on, off⟩)
    | .trigger value next =>
      some (trigger { c with active := { f with current := next } :: outer } value)
    | .done =>
      match f.remaining with
      | sub :: rest => some (c.call f sub rest outer)
      | [] => some (c.finish f outer)

/-- **Any number of steps**. -/
abbrev Steps : Course → Course → Prop :=
  Relation.ReflTransGen fun c c' => c.step = some c'

/-- The listeners on the bus. -/
def listeners (c : Course) : List Listener :=
  c.bus.map Subscription.listener

/-- The calls so far, in order. -/
def calls (c : Course) : List Call :=
  c.log.filterMap BusEvent.call?

/-- The calls of a fan-out so far, in order. -/
def callsBy (c : Course) (fan : Nat) : List (Subscription × Bool) :=
  c.log.filterMap (BusEvent.callBy? fan)

/-- The subscriptions so far, in order. -/
def added (c : Course) : List Subscription :=
  c.log.filterMap BusEvent.subscription?

/-- **What a step can do**: the listener that is being called subscribes another
one or triggers the bus; or else the fan-out on top calls its next listener, or
ends. -/
theorem step_cases {c c' : Course} (h : c.step = some c') : ∃ f outer, c.active = f :: outer
    ∧ ((∃ l next, c' = subscribe { c with active := { f with current := next } :: outer } l)
      ∨ (∃ value next,
          c' = trigger { c with active := { f with current := next } :: outer } value)
      ∨ (∃ sub rest, f.remaining = sub :: rest ∧ c' = c.call f sub rest outer)
      ∨ (f.remaining = [] ∧ c' = c.finish f outer)) := by
  unfold step at h
  cases hactive : c.active with
  | nil => rw [hactive] at h; exact nomatch h
  | cons f outer =>
    rw [hactive] at h
    refine ⟨f, outer, rfl, ?_⟩
    cases hcurrent : f.current with
    | subscribe label on off next =>
      simp only [hcurrent] at h
      exact .inl ⟨_, next, (Option.some.inj h).symm⟩
    | trigger value next =>
      simp only [hcurrent] at h
      exact .inr (.inl ⟨value, next, (Option.some.inj h).symm⟩)
    | done =>
      simp only [hcurrent] at h
      cases hremaining : f.remaining with
      | cons sub rest =>
        simp only [hremaining] at h
        exact .inr (.inr (.inl ⟨sub, rest, rfl, (Option.some.inj h).symm⟩))
      | nil =>
        simp only [hremaining] at h
        exact .inr (.inr (.inr ⟨rfl, (Option.some.inj h).symm⟩))

/-- What has happened stays in the log. -/
theorem log_prefix {c c' : Course} (hsteps : Steps c c') : c.log <+: c'.log := by
  induction hsteps with
  | refl => exact List.prefix_rfl
  | tail _ hstep ih =>
    refine ih.trans ?_
    obtain ⟨f, outer, -, ⟨l, next, rfl⟩ | ⟨value, next, rfl⟩ | ⟨sub, rest, -, rfl⟩
      | ⟨-, rfl⟩⟩ := step_cases hstep
    · exact List.prefix_append _ _
    · exact List.prefix_append _ _
    · exact List.prefix_append _ _
    · exact List.prefix_rfl

/-! ## The order of all listeners -/

/-- **All listeners**: the lists of the fan-outs under way, from the outermost
to the innermost, and then those that wait. -/
def gathered : List ActiveFanOut → List Subscription → List Subscription
  | [], waiting => waiting
  | f :: outer, waiting => gathered outer (f.list ++ waiting)

theorem gathered_append (active : List ActiveFanOut) : ∀ a b : List Subscription,
    gathered active (a ++ b) = gathered active a ++ b := by
  induction active with
  | nil => exact fun _ _ => rfl
  | cons f outer ih =>
    intro a b
    rw [gathered, ← List.append_assoc, ih]
    rfl

/-- Those that wait stand at the end. -/
theorem gathered_eq (active : List ActiveFanOut) (waiting : List Subscription) :
    gathered active waiting = gathered active [] ++ waiting :=
  gathered_append active [] waiting

theorem mem_gathered {active : List ActiveFanOut} {f : ActiveFanOut} {sub : Subscription}
    (hf : f ∈ active) (hsub : sub ∈ f.list) : sub ∈ gathered active [] := by
  induction active with
  | nil => exact nomatch hf
  | cons g outer ih =>
    rw [gathered, List.append_nil, gathered_eq]
    rcases List.mem_cons.mp hf with rfl | hf
    · exact List.mem_append_right _ hsub
    · exact List.mem_append_left _ (ih hf)

/-! ## What the log tells -/

/-- **The fan-outs after the first one call none of the first listeners**, and
only such as were subscribed before they started. -/
def CallsLater (first : List Subscription) (log : List BusEvent) : Prop :=
  ∀ fan value list, .started fan value list ∈ log → fan ≠ 0 → ∀ sub ∈ list,
    sub ∉ first ∧ [.subscribed sub, .started fan value list].Sublist log

/-- **A fan-out calls listeners of its list only**, with its value. -/
def CallsListed (log : List BusEvent) : Prop :=
  ∀ fan sub value, .called fan sub value ∈ log →
    ∃ list, .started fan value list ∈ log ∧ sub ∈ list

section Log

variable {first : List Subscription} {log : List BusEvent} {e : BusEvent}

theorem mem_snoc {e' : BusEvent} (h : e' ∈ log ++ [e]) : e' ∈ log ∨ e' = e :=
  (List.mem_append.mp h).imp_right List.mem_singleton.mp

theorem CallsLater.snoc (h : CallsLater first log)
    (hnew : ∀ fan value list, .started fan value list = e → fan ≠ 0 → ∀ sub ∈ list,
      sub ∉ first ∧ .subscribed sub ∈ log) : CallsLater first (log ++ [e]) := by
  intro fan value list hstarted hfan sub hsub
  rcases mem_snoc hstarted with hold | heq
  · obtain ⟨hfirst, hbefore⟩ := h fan value list hold hfan sub hsub
    exact ⟨hfirst, hbefore.trans (List.sublist_append_left _ _)⟩
  · obtain ⟨hfirst, hmem⟩ := hnew fan value list heq hfan sub hsub
    rw [← heq]
    exact ⟨hfirst, (List.singleton_sublist.mpr hmem).append (.refl _)⟩

theorem CallsListed.snoc (h : CallsListed log)
    (hnew : ∀ fan sub value, .called fan sub value = e →
      ∃ list, .started fan value list ∈ log ∧ sub ∈ list) : CallsListed (log ++ [e]) := by
  intro fan sub value hcalled
  rcases mem_snoc hcalled with hold | heq
  · obtain ⟨list, hstarted, hsub⟩ := h fan sub value hold
    exact ⟨list, List.mem_append_left _ hstarted, hsub⟩
  · obtain ⟨list, hstarted, hsub⟩ := hnew fan sub value heq
    exact ⟨list, List.mem_append_left _ hstarted, hsub⟩

end Log

/-! ## The invariant -/

/-- **What holds at every moment** of the course of a fan-out over the list
`first`. -/
structure Regular (first : List Subscription) (c : Course) : Prop where
  /-- All listeners are there, in the order in which they were subscribed. -/
  order : gathered c.active c.bus = first ++ c.added
  /-- They are numbered in this order. -/
  numbers : (gathered c.active c.bus).map Subscription.number = List.range c.subscribed
  /-- The fan-outs are numbered in the order in which they started. -/
  starts : c.log.filterMap BusEvent.start? = List.range c.started
  /-- The fan-outs under way are different ones. -/
  distinct : (c.active.map ActiveFanOut.number).Nodup
  /-- The outermost of them is the first, over the list `first`. -/
  outermost : ∀ f ∈ c.active.getLast?, f.number = 0 ∧ f.list = first
  /-- A fan-out under way has called its listeners in order, as far as it has
  got. -/
  underWay : ∀ f ∈ c.active, .started f.number f.value f.list ∈ c.log
    ∧ c.callsBy f.number = f.called.map (·, f.value)
  /-- A fan-out that is over has called all its listeners in order. -/
  ended : ∀ fan value list, .started fan value list ∈ c.log →
    fan ∈ c.active.map ActiveFanOut.number ∨ c.callsBy fan = list.map (·, value)
  /-- The fan-outs after the first call others. -/
  later : CallsLater first c.log
  /-- A fan-out calls those on its list. -/
  listed : CallsListed c.log

namespace Regular

variable {first : List Subscription} {c : Course}

/-- The number of a fan-out that has started is one that has been given. -/
theorem lt_started (h : c.Regular first) {fan : Nat} {value : Bool} {list : List Subscription}
    (hstarted : .started fan value list ∈ c.log) : fan < c.started := by
  rw [← List.mem_range, ← h.starts]
  exact List.mem_filterMap.mpr ⟨_, hstarted, rfl⟩

/-- A listener that waits while a fan-out is under way is none of the first, and
its subscription is in the log. -/
theorem mem_bus (h : c.Regular first) (hactive : c.active ≠ []) {sub : Subscription}
    (hsub : sub ∈ c.bus) : sub ∉ first ∧ .subscribed sub ∈ c.log := by
  have hall : sub ∈ first ++ c.added := by
    rw [← h.order, gathered_eq]
    exact List.mem_append_right _ hsub
  have hfirst : sub ∉ first := by
    -- the first fan-out has the first listeners, and no listener is there twice
    have hlast := h.outermost _ (List.getLast?_eq_some_getLast hactive)
    intro hmem
    have hgathered := mem_gathered (List.getLast_mem hactive) (hlast.2 ▸ hmem)
    have hnodup : (gathered c.active c.bus).Nodup :=
      .of_map Subscription.number (h.numbers ▸ List.nodup_range)
    rw [gathered_eq] at hnodup
    exact (List.disjoint_of_nodup_append hnodup) hgathered hsub
  refine ⟨hfirst, ?_⟩
  obtain ⟨e, he, heq⟩ :=
    List.mem_filterMap.mp ((List.mem_append.mp hall).resolve_left hfirst)
  cases e with
  | subscribed sub' => exact Option.some.inj heq ▸ he
  | started fan value list => exact nomatch heq
  | called fan sub' value => exact nomatch heq

/-- What a listener has still to do is of no account. -/
theorem setCurrent (h : c.Regular first) {f : ActiveFanOut} {outer : List ActiveFanOut}
    (hactive : c.active = f :: outer) (next : Action) :
    Regular first { c with active := { f with current := next } :: outer } := by
  have hnumbers : (({ f with current := next } :: outer).map ActiveFanOut.number)
      = c.active.map ActiveFanOut.number := by rw [hactive]; rfl
  have hgathered : gathered ({ f with current := next } :: outer) c.bus
      = gathered c.active c.bus := by rw [hactive]; rfl
  refine ⟨hgathered.trans h.order, hgathered ▸ h.numbers, h.starts, hnumbers ▸ h.distinct,
    fun g hg => ?_, fun g hg => ?_, hnumbers ▸ h.ended, h.later, h.listed⟩
  · cases outer with
    | nil =>
      cases hg
      exact h.outermost f (by rw [hactive]; rfl)
    | cons f' outer => exact h.outermost g (by rw [hactive]; exact hg)
  · rcases List.mem_cons.mp hg with rfl | hg
    · exact h.underWay f (by rw [hactive]; exact List.mem_cons_self)
    · exact h.underWay g (by rw [hactive]; exact List.mem_cons_of_mem _ hg)

/-- **A subscription keeps the course regular**: the listener goes to the very
end. -/
theorem subscribe (h : c.Regular first) (l : Listener) : (c.subscribe l).Regular first := by
  have hcalls : ∀ fan, (c.subscribe l).callsBy fan = c.callsBy fan := by
    intro fan
    simp [callsBy, Course.subscribe, BusEvent.callBy?]
  have hadded : (c.subscribe l).added = c.added ++ [⟨c.subscribed, l⟩] := by
    simp [added, Course.subscribe, BusEvent.subscription?]
  refine ⟨?_, ?_, ?_, h.distinct, h.outermost, fun f hf => ?_, fun fan value list hstarted => ?_,
    h.later.snoc (fun _ _ _ heq => nomatch heq), h.listed.snoc (fun _ _ _ heq => nomatch heq)⟩
  · show gathered c.active (c.bus ++ _) = _
    rw [gathered_append, h.order, hadded, List.append_assoc]
  · show (gathered c.active (c.bus ++ _)).map _ = List.range (c.subscribed + 1)
    rw [gathered_append, List.map_append, h.numbers, List.range_succ]
    rfl
  · show (c.log ++ _).filterMap _ = _
    rw [List.filterMap_append, h.starts]
    exact List.append_nil _
  · rw [hcalls]
    exact ⟨List.mem_append_left _ (h.underWay f hf).1, (h.underWay f hf).2⟩
  · rw [hcalls]
    rcases mem_snoc hstarted with hold | heq
    · exact h.ended fan value list hold
    · exact nomatch heq

/-- **A nested trigger keeps the course regular**: it takes over those that
wait. -/
theorem trigger (h : c.Regular first) (hactive : c.active ≠ []) (value : Bool) :
    (c.trigger value).Regular first := by
  have hcalls : ∀ fan, (c.trigger value).callsBy fan = c.callsBy fan := by
    intro fan
    simp [callsBy, Course.trigger, BusEvent.callBy?]
  have hnew : c.started ∉ c.active.map ActiveFanOut.number := by
    intro hmem
    obtain ⟨f, hf, heq⟩ := List.mem_map.mp hmem
    exact Nat.lt_irrefl _ (heq ▸ h.lt_started (h.underWay f hf).1)
  have hnone : c.callsBy c.started = [] := by
    refine List.filterMap_eq_nil_iff.mpr fun e he => ?_
    cases e with
    | called fan sub value' =>
      obtain ⟨list, hstarted, -⟩ := h.listed fan sub value' he
      exact if_neg (Nat.ne_of_lt (h.lt_started hstarted))
    | subscribed sub => rfl
    | started fan value' list => rfl
  have hgathered : gathered (c.trigger value).active [] = gathered c.active c.bus := by
    show gathered c.active (([] ++ c.bus) ++ []) = _
    rw [List.nil_append, List.append_nil]
  refine ⟨?_, ?_, ?_, List.nodup_cons.mpr ⟨hnew, h.distinct⟩, fun f hf => ?_, fun f hf => ?_,
    fun fan value' list hstarted => ?_, h.later.snoc ?_,
    h.listed.snoc (fun _ _ _ heq => nomatch heq)⟩
  · refine hgathered.trans (h.order.trans ?_)
    simp [added, Course.trigger, BusEvent.subscription?]
  · exact (congrArg _ hgathered).trans h.numbers
  · show (c.log ++ _).filterMap _ = List.range (c.started + 1)
    rw [List.filterMap_append, h.starts, List.range_succ]
    rfl
  · refine h.outermost f ?_
    have hlast : (c.trigger value).active.getLast? = c.active.getLast? := by
      obtain ⟨g, outer, heq⟩ := List.exists_cons_of_ne_nil hactive
      rw [Course.trigger, heq]
      rfl
    rwa [hlast] at hf
  · rw [hcalls]
    rcases List.mem_cons.mp hf with rfl | hf
    · exact ⟨List.mem_append_right _ List.mem_cons_self, hnone⟩
    · exact ⟨List.mem_append_left _ (h.underWay f hf).1, (h.underWay f hf).2⟩
  · rw [hcalls]
    rcases mem_snoc hstarted with hold | heq
    · exact (h.ended fan value' list hold).imp_left (List.mem_cons_of_mem _)
    · cases heq
      exact .inl List.mem_cons_self
  · intro fan value' list heq _ sub hsub
    cases heq
    exact h.mem_bus hactive hsub

/-- A fan-out starts once. -/
theorem started_unique (h : c.Regular first) {fan : Nat} {value value' : Bool}
    {list list' : List Subscription} (hstarted : .started fan value list ∈ c.log)
    (hstarted' : .started fan value' list' ∈ c.log) : value = value' ∧ list = list' := by
  have hnodup : (c.log.filterMap BusEvent.start?).Nodup := h.starts ▸ List.nodup_range
  have hpairwise := List.pairwise_filterMap.mp hnodup
  by_contra hne
  have hdiffer : BusEvent.started fan value list ≠ .started fan value' list' := by
    intro heq
    cases heq
    exact hne ⟨rfl, rfl⟩
  have : Std.Symm fun e e' : BusEvent =>
      ∀ n, e.start? = some n → ∀ n', e'.start? = some n' → n ≠ n' :=
    ⟨fun _ _ hdifferent n hn n' hn' => (hdifferent n' hn' n hn).symm⟩
  exact hpairwise.forall hstarted hstarted' hdiffer fan rfl fan rfl rfl

/-- **A call keeps the course regular**: it is the next one of its fan-out. -/
theorem call (h : c.Regular first) {f : ActiveFanOut} {outer : List ActiveFanOut}
    (hactive : c.active = f :: outer) {sub : Subscription} {rest : List Subscription}
    (hremaining : f.remaining = sub :: rest) : (c.call f sub rest outer).Regular first := by
  have hlist : f.called ++ [sub] ++ rest = f.list := by
    rw [ActiveFanOut.list, hremaining, List.append_assoc]
    rfl
  have hnumbers : (c.call f sub rest outer).active.map ActiveFanOut.number
      = c.active.map ActiveFanOut.number := by rw [hactive]; rfl
  have hgathered : gathered (c.call f sub rest outer).active c.bus
      = gathered c.active c.bus := by
    rw [hactive, gathered, ← hlist]
    rfl
  have hadded : (c.call f sub rest outer).added = c.added := by
    simp [added, Course.call, BusEvent.subscription?]
  have hcalls : (c.call f sub rest outer).callsBy f.number
      = c.callsBy f.number ++ [(sub, f.value)] := by
    simp [callsBy, Course.call, BusEvent.callBy?]
  have hothers : ∀ fan, f.number ≠ fan →
      (c.call f sub rest outer).callsBy fan = c.callsBy fan := by
    intro fan hne
    simp [callsBy, Course.call, BusEvent.callBy?, hne]
  have hunder := h.underWay f (by rw [hactive]; exact List.mem_cons_self)
  have hdistinct : (f.number :: outer.map ActiveFanOut.number).Nodup := by
    have := h.distinct
    rwa [hactive] at this
  refine ⟨hgathered.trans (h.order.trans (by rw [hadded])), hgathered ▸ h.numbers, ?_,
    hnumbers ▸ h.distinct, fun g hg => ?_, fun g hg => ?_, fun fan value list hstarted => ?_,
    h.later.snoc (fun _ _ _ heq => nomatch heq), h.listed.snoc ?_⟩
  · show (c.log ++ _).filterMap _ = _
    rw [List.filterMap_append, h.starts]
    exact List.append_nil _
  · cases outer with
    | nil =>
      cases hg
      have hlast := h.outermost f (by rw [hactive]; rfl)
      exact ⟨hlast.1, hlist.trans hlast.2⟩
    | cons f' outer => exact h.outermost g (by rw [hactive]; exact hg)
  · rcases List.mem_cons.mp hg with rfl | hg
    · refine ⟨List.mem_append_left _ ?_, ?_⟩
      · show .started f.number f.value (f.called ++ [sub] ++ rest) ∈ c.log
        rw [hlist]
        exact hunder.1
      · rw [hcalls, hunder.2, List.map_append]
        rfl
    · have hne : f.number ≠ g.number := fun heq =>
        (List.nodup_cons.mp hdistinct).1 (heq ▸ List.mem_map_of_mem hg)
      have hg' := h.underWay g (by rw [hactive]; exact List.mem_cons_of_mem _ hg)
      rw [hothers _ hne]
      exact ⟨List.mem_append_left _ hg'.1, hg'.2⟩
  · have hold := (mem_snoc hstarted).resolve_right (fun heq => nomatch heq)
    rw [hnumbers]
    by_cases hfan : f.number = fan
    · refine .inl ?_
      rw [hactive]
      exact hfan ▸ List.mem_cons_self
    · rw [hothers _ hfan]
      exact h.ended fan value list hold
  · intro fan sub' value heq
    cases heq
    refine ⟨f.list, hunder.1, ?_⟩
    rw [ActiveFanOut.list, hremaining]
    exact List.mem_append_right _ List.mem_cons_self

/-- **The end of a fan-out keeps the course regular**: its list goes before
those that wait, and by then it has called all of it. -/
theorem finish (h : c.Regular first) {f : ActiveFanOut} {outer : List ActiveFanOut}
    (hactive : c.active = f :: outer) (hremaining : f.remaining = []) :
    (c.finish f outer).Regular first := by
  have hlist : f.list = f.called := by
    rw [ActiveFanOut.list, hremaining, List.append_nil]
  have hgathered : gathered outer (f.called ++ c.bus) = gathered c.active c.bus := by
    rw [hactive, gathered, hlist]
  have hmem : ∀ {g}, g ∈ outer → g ∈ c.active := by
    intro g hg
    rw [hactive]
    exact List.mem_cons_of_mem _ hg
  have hdistinct : (f.number :: outer.map ActiveFanOut.number).Nodup := by
    have := h.distinct
    rwa [hactive] at this
  have hunder := h.underWay f (by rw [hactive]; exact List.mem_cons_self)
  refine ⟨hgathered.trans h.order, hgathered ▸ h.numbers, h.starts,
    (List.nodup_cons.mp hdistinct).2, fun g hg => ?_, fun g hg => h.underWay g (hmem hg),
    fun fan value list hstarted => ?_, h.later, h.listed⟩
  · refine h.outermost g ?_
    obtain ⟨f', outer', rfl⟩ := List.exists_cons_of_ne_nil
      (List.ne_nil_of_mem (List.mem_of_getLast? hg))
    rw [hactive]
    exact hg
  · rcases h.ended fan value list hstarted with hmem | hended
    · rw [hactive] at hmem
      rcases List.mem_cons.mp hmem with rfl | hmem
      · obtain ⟨rfl, rfl⟩ := h.started_unique hstarted hunder.1
        exact .inr (hlist ▸ hunder.2)
      · exact .inl hmem
    · exact .inr hended

/-- **Every step keeps the course regular.** -/
theorem step (h : c.Regular first) {c' : Course} (hstep : c.step = some c') :
    c'.Regular first := by
  obtain ⟨f, outer, hactive, ⟨l, next, rfl⟩ | ⟨value, next, rfl⟩ | ⟨sub, rest, hremaining, rfl⟩
    | ⟨hremaining, rfl⟩⟩ := step_cases hstep
  · exact (h.setCurrent hactive next).subscribe l
  · exact (h.setCurrent hactive next).trigger (List.cons_ne_nil _ _) value
  · exact h.call hactive hremaining
  · exact h.finish hactive hremaining

/-- **So do any number of steps.** -/
theorem steps (h : c.Regular first) {c' : Course} (hsteps : Steps c c') : c'.Regular first := by
  induction hsteps with
  | refl => exact h
  | tail _ hstep ih => exact ih.step hstep

end Regular

/-- **A trigger of a bus starts regularly**, over the list of the bus. -/
theorem regular_trigger (listeners : List Listener) (value : Bool) :
    ((ofListeners listeners).trigger value).Regular (subscriptions listeners) := by
  have hgathered : gathered ((ofListeners listeners).trigger value).active []
      = subscriptions listeners := by
    show ([] ++ subscriptions listeners) ++ [] = _
    rw [List.nil_append, List.append_nil]
  refine ⟨hgathered.trans (List.append_nil _).symm, ?_, rfl, List.nodup_singleton _,
    fun f hf => ?_, fun f hf => ?_, fun fan value' list hstarted => ?_,
    fun fan value' list hstarted hfan => ?_, fun fan sub value' hcalled => ?_⟩
  · exact (congrArg _ hgathered).trans (number_subscriptions listeners)
  · cases hf
    exact ⟨rfl, rfl⟩
  · obtain rfl := List.mem_singleton.mp hf
    exact ⟨List.mem_singleton_self _, rfl⟩
  · cases List.mem_singleton.mp hstarted
    exact .inl (List.mem_singleton_self _)
  · cases List.mem_singleton.mp hstarted
    exact absurd rfl hfan
  · exact nomatch List.mem_singleton.mp hcalled

end Course

end SoundSheet
