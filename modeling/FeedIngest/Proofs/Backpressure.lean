import FeedIngest.Proofs.Permits
import FeedIngest.Proofs.Places

/-! How much is under way at once. Before the dispatcher closes the channel, no more units of
work run than there are permits, no more identifiers are under way than there are permits and
places in the channel, and one in between, and a loop waits for the other only where the
channel is full or all permits are with running units. This holds with crashes too: a unit
gives back its permit however it ends. -/

namespace FeedIngest

namespace Discovery.Phase

/-- There is an identifier to be announced. -/
def hasNext : Phase → Bool
  | announcing _ _ rest => rest.next?.isSome
  | _ => false

end Discovery.Phase

namespace Pipeline

variable {loops : Loops} {p q : Pipeline} {i : Input} {inputs : List Input} {events : List Event}
  {capacity limit : Nat}

/-- The buffer keeps to its bound, and discovery waits only for as long as it is full. Left to the
loops, no place is taken before it is filled. -/
structure IsBounded (places : Nat) (p : Pipeline) : Prop where
  capacity : p.channel.capacity = places
  unreserved : p.channel.reserved = 0
  bound : p.channel.buffer.length ≤ places
  waits : p.channel.waiting = true →
    p.channel.buffer.length = places ∧ p.discovery.hasNext = true

theorem isBounded_start (capacity limit : Nat) : (start capacity limit).IsBounded capacity :=
  ⟨rfl, rfl, Nat.zero_le capacity, by rintro ⟨⟩⟩

theorem IsBounded.used (h : p.IsBounded capacity) :
    p.channel.used = p.channel.buffer.length := by
  rw [Channel.used, h.unreserved]
  rfl

theorem IsBounded.move (h : p.IsBounded capacity) (m : Move loops p i q events)
    (hi : i.isInternal = true) : q.IsBounded capacity := by
  have used := h.used
  obtain ⟨now, cancelled, channel, discovery, d⟩ := p
  obtain ⟨hc, hr, hb, hw⟩ := h
  cases m with
  | discovery task =>
    cases task with
    | announce _ _ _ place | announceLast _ _ _ place | overflow _ _ _ place =>
      rw [hc, used] at place
      exact ⟨hc, hr, List.length_append.trans_le place, by rintro ⟨⟩⟩
    | block _ left _ full =>
      rw [hc, used] at full
      exact ⟨hc, hr, hb, fun _ => ⟨Nat.le_antisymm hb full, Option.isSome_of_eq_some left⟩⟩
    | complete left =>
      refine ⟨hc, hr, hb, fun hwait => ?_⟩
      have hnext : Option.isSome _ = true := (hw hwait).2
      rw [left] at hnext
      cases hnext
    | decline | reportFails | callFails | refuse | underflow | stop =>
      exact ⟨hc, hr, hb, by rintro ⟨⟩⟩
    | rest => exact ⟨hc, hr, hb, hw⟩
    | ask | retry | again | learn | report | poll | see | miss | wake =>
      exact ⟨hc, hr, hb, fun hwait => Bool.noConfusion (hw hwait).2⟩
  | dispatch task =>
    cases task with
    | receive _ taken =>
      obtain ⟨hbuffer, hlater⟩ := Channel.take?_eq_some taken
      rw [hlater]
      refine ⟨hc, hr, ?_, by rintro ⟨⟩⟩
      change channel.buffer = _ at hbuffer
      rw [hbuffer] at hb
      exact Nat.le_of_succ_le hb
    | leave | forgo => exact ⟨hc, hr, Nat.zero_le capacity, by rintro ⟨⟩⟩
    | _ => exact ⟨hc, hr, hb, hw⟩
  | reserve | push | send | stopSending | take | close | runAgain => cases hi
  | _ => exact ⟨hc, hr, hb, hw⟩

theorem isBounded_run (loops : Loops) (h : p.IsBounded capacity)
    (hi : ∀ i ∈ inputs, i.isInternal = true) :
    (p.run loops inputs).pipeline.IsBounded capacity := by
  apply run_induction (P := fun q _ => q.IsBounded capacity) h
  intro p i q events _ hmem m h
  exact h.move m (hi i hmem)

/-- One where the dispatcher has been granted the permit it waits for, which it has not yet given
to a unit of work. -/
def granted (d : Dispatch) : Nat :=
  match d.permits.waiting with
  | some w => if w.needed ≤ w.held then 1 else 0
  | none => 0

theorem granted_eq {d : Dispatch} {n : Nat} (h : d.Balanced n) (hs : d.phase.isServing = true) :
    granted d = d.permits.held := by
  unfold granted Permits.held
  cases hw : d.permits.waiting with
  | none => rfl
  | some w =>
    obtain ⟨hneeds, hle, -⟩ := h.waits w hw
    have hone : w.needed = 1 := by
      generalize d.phase = phase at hneeds hs
      cases phase with
      | acquiring id => exact (Option.some.inj hneeds).symm
      | draining due => cases hs
      | _ => cases hneeds
    show (if w.needed ≤ w.held then 1 else 0) = w.held
    rw [hone] at hle ⊢
    split <;> omega

/-- The dispatcher waits for a permit only where all are with running units. -/
theorem running_of_blocked {d : Dispatch} {n : Nat} {id : ItemId} {w : PermitWait}
    (h : d.Balanced n) (hp : d.phase = .acquiring id) (hw : d.permits.waiting = some w)
    (hlt : w.held < w.needed) : d.running.length = n := by
  obtain ⟨hneeds, hle, ha⟩ := h.waits w hw
  rw [hp] at hneeds
  have hone : w.needed = 1 := (Option.some.inj hneeds).symm
  have hfree : d.permits.free = 0 := by
    rw [Permits.free, ha hlt, Permits.held, hw, Option.elim_some]
    omega
  have hsum := h.sum
  omega

/-- A step of the dispatcher that is to take a permit leaves it waiting just where all are with
running units. -/
theorem acquiring_iff {d : Dispatch} {n : Nat} {id : ItemId} (loops : Loops) (now : Nat)
    (channel : Channel) (h : d.Balanced n) (hp : d.phase = .acquiring id) :
    (d.poll loops now false channel).dispatch.phase = .acquiring id ↔ d.running.length = n := by
  obtain ⟨phase, p, units⟩ := d
  obtain rfl : phase = .acquiring id := hp
  have hsum := h.sum
  simp only [Dispatch.poll, Bool.false_eq_true, if_false]
  generalize ha : p.acquire 1 = a
  obtain ⟨p', got⟩ := a
  cases got with
  | true =>
    obtain ⟨-, -, hfree⟩ := Permits.acquire_got h.waits ha
    have : p.free + _ = n := hsum
    constructor
    · rintro ⟨⟩
    · intro hr
      omega
  | false =>
    obtain ⟨-, -, -, hfree⟩ := Permits.acquire_missed h.waits ha
    have : p.free + _ = n := hsum
    refine ⟨fun _ => ?_, fun _ => rfl⟩
    omega

/-- A step of discovery that is to announce leaves it waiting just where all places are taken. -/
theorem waiting_iff {channel : Channel} {phase : Discovery.Phase} (loops : Loops) (now : Nat)
    (answer : Option (Answer ItemId)) (hn : phase.hasNext = true) (ho : channel.closed = false) :
    (Discovery.poll loops now false answer channel phase).channel.waiting = true ↔
      channel.capacity ≤ channel.used := by
  cases phase with
  | announcing mark before rest =>
    obtain ⟨⟨id, later⟩, left⟩ := Option.isSome_iff_exists.1 hn
    simp only [Discovery.poll, Discovery.announce, left, Bool.false_eq_true, if_false]
    obtain ⟨closed, -⟩ | ⟨-, place, hoffer⟩ | ⟨-, full, hoffer⟩ := channel.offer_cases id
    · rw [ho] at closed
      cases closed
    · simp only [hoffer]
      refine iff_of_false ?_ (Nat.not_le_of_lt place)
      cases mark.advancePast? id with
      | none => rintro ⟨⟩
      | some next =>
        dsimp only [Discovery.report]
        cases (loops.clock now).add loops.deadline <;> rintro ⟨⟩
    · simp only [hoffer]
      exact iff_of_true rfl full
  | _ => cases hn

/-- The identifiers that were announced, were not abandoned and do not belong to a unit of work
that has ended. -/
def Run.underWay (r : Run) : List ItemId :=
  r.announced.filter fun id => id ∉ r.abandoned ∧
    ∀ u ∈ r.pipeline.dispatch.units, u.id = id → u.isRunning = true

theorem length_underWay_le {r : Run} {dropped : List ItemId}
    (custody : Custody r.events r.pipeline dropped) (he : r.entered = r.announced)
    (hs : r.pipeline.dispatch.phase.isServing = true) : r.underWay.length ≤
      r.pipeline.dispatch.running.length + 1 + r.pipeline.channel.buffer.length := by
  have hunits (c : ItemId → Bool)
      (hc : ∀ u ∈ r.pipeline.dispatch.units, c u.id = true → u.isRunning = true) :
      ((r.pipeline.dispatch.units.map UnitOfWork.id).filter c).length ≤
        r.pipeline.dispatch.running.length := by
    rw [List.filter_map, List.length_map, Dispatch.running, ← List.countP_eq_length_filter,
      ← List.countP_eq_length_filter]
    exact List.countP_mono_left hc
  have hheld (c : ItemId → Bool) : (r.pipeline.dispatch.phase.held.filter c).length ≤ 1 := by
    apply Nat.le_trans (List.length_filter_le _ _)
    cases r.pipeline.dispatch.phase <;> simp [Dispatch.Phase.held]
  rw [Run.underWay, ← he, Run.entered, Run.collect, custody.entered, custody.serving hs]
  simp only [List.append_nil, List.filter_append, List.length_append]
  apply Nat.add_le_add (Nat.add_le_add (hunits _ ?_) (hheld _)) (List.length_filter_le _ _)
  intro u hu hid
  exact (of_decide_eq_true hid).2 u hu rfl

theorem returned_of_ended {r : Run} {index : Nat} {reply : Option UnitOfWork.Reply}
    {u v : UnitOfWork} {outcome : UnitOfWork.Outcome} (loops : Loops)
    (hu : r.pipeline.dispatch.units[index]? = some u) (hrun : u.isRunning = true)
    (hv : (r.step loops (.unit index reply)).pipeline.dispatch.units[index]? = some v)
    (hend : v.phase = .ended outcome) :
    (r.step loops (.unit index reply)).pipeline.dispatch.running.length + 1 =
        r.pipeline.dispatch.running.length ∧
      (r.step loops (.unit index reply)).pipeline.dispatch.permits.free =
        r.pipeline.dispatch.permits.free + 1 := by
  obtain ⟨hnone, -⟩ | ⟨u', v', events, hu', -, -, hstep⟩ := Dispatch.pollUnit_eq loops
    r.pipeline.now r.pipeline.cancelled index reply r.pipeline.dispatch
  · rw [hu] at hnone
    cases hnone
  · obtain rfl : u' = u := Option.some.inj (hu'.symm.trans hu)
    have hd : (r.step loops (.unit index reply)).pipeline.dispatch =
        r.pipeline.dispatch.withUnit index u' v' := congrArg Prod.fst hstep
    rw [hd] at hv ⊢
    have hset : v' = v := Option.some.inj ((List.getElem?_set_self
      (List.getElem?_eq_some_iff.1 hu).1).symm.trans hv)
    subst hset
    apply Dispatch.withUnit_ended hu hrun
    rw [UnitOfWork.isRunning_eq, hend]
    rfl

/-- What holds of a run with channel and permits of some size. -/
structure Backpressure (capacity permits : Nat) (r : Run) : Prop where
  /-- A permit is available, with a running unit, or granted to the dispatcher. -/
  accounted : r.pipeline.dispatch.phase.isServing = true →
    r.pipeline.dispatch.permits.available + r.pipeline.dispatch.running.length +
      granted r.pipeline.dispatch = permits
  running : r.pipeline.dispatch.running.length ≤ permits
  underWay : r.pipeline.dispatch.phase.isServing = true →
    r.underWay.length ≤ capacity + permits + 1
  /-- Discovery waits for a place only where the channel is full. -/
  discovery : r.pipeline.channel.waiting = true →
    r.pipeline.channel.buffer.length = capacity ∧ r.pipeline.discovery.hasNext = true
  /-- A step of discovery leaves it waiting just where the channel is full. -/
  announces : ∀ loops answer, r.pipeline.cancelled = false → r.pipeline.channel.closed = false →
    r.pipeline.discovery.hasNext = true →
    ((r.step loops (.discovery answer)).pipeline.channel.waiting = true ↔
      r.pipeline.channel.buffer.length = capacity)
  /-- The dispatcher waits for a permit only where all are with running units. -/
  dispatch : ∀ id w, r.pipeline.dispatch.phase = .acquiring id →
    r.pipeline.dispatch.permits.waiting = some w → w.held < w.needed →
    r.pipeline.dispatch.running.length = permits
  /-- A step of the dispatcher leaves it waiting just where they are. -/
  acquires : ∀ loops id, r.pipeline.cancelled = false →
    r.pipeline.dispatch.phase = .acquiring id →
    ((r.step loops .dispatch).pipeline.dispatch.phase = .acquiring id ↔
      r.pipeline.dispatch.running.length = permits)
  /-- However a unit ends, it gives back its permit. -/
  returned : ∀ loops index reply u v outcome,
    r.pipeline.dispatch.units[index]? = some u → u.isRunning = true →
    (r.step loops (.unit index reply)).pipeline.dispatch.units[index]? = some v →
    v.phase = .ended outcome →
    (r.step loops (.unit index reply)).pipeline.dispatch.running.length + 1 =
        r.pipeline.dispatch.running.length ∧
      (r.step loops (.unit index reply)).pipeline.dispatch.permits.free =
        r.pipeline.dispatch.permits.free + 1

/-- Whatever happens in whatever order, with or without crashes, no more than the channel and
the permits allow is under way. -/
theorem backpressure (hi : ∀ i ∈ inputs, i.isInternal = true) :
    Backpressure capacity (max 1 (min limit 4294967295))
      ((start capacity limit).run loops inputs) := by
  have hf := isFresh_start capacity limit
  have balanced : ((start capacity limit).run loops inputs).pipeline.dispatch.Balanced _ :=
    balanced_run loops (Dispatch.balanced_start limit) inputs
  have bounded := isBounded_run loops (isBounded_start capacity limit) hi
  have custody : Custody ((start capacity limit).run loops inputs).events _ _ := custody_run hf
    fun i h => Input.sparesReceiver_of_isInternal (hi i h)
  constructor
  case accounted =>
    intro hs
    rw [granted_eq balanced hs, ← balanced.sum, Permits.free]
    omega
  case running =>
    have := balanced.sum
    omega
  case underWay =>
    intro hs
    have hle := length_underWay_le custody (entered_eq_announced _ hi) hs
    have hsum := balanced.sum
    have hbound := bounded.bound
    omega
  case discovery => exact bounded.waits
  case announces =>
    intro loops' answer hcancelled hopened hn
    have hw := waiting_iff loops' ((start capacity limit).run loops inputs).pipeline.now answer
      hn hopened
    rw [← hcancelled, bounded.capacity, bounded.used] at hw
    have hle := bounded.bound
    exact hw.trans ⟨fun hge => Nat.le_antisymm hle hge, fun he => Nat.le_of_eq he.symm⟩
  case dispatch =>
    intro id w hp hw hlt
    exact running_of_blocked balanced hp hw hlt
  case acquires =>
    intro loops' id hcancelled hp
    have ha := acquiring_iff loops' ((start capacity limit).run loops inputs).pipeline.now
      ((start capacity limit).run loops inputs).pipeline.channel balanced hp
    rw [← hcancelled] at ha
    exact ha
  case returned =>
    intro loops' index reply u v outcome hu hrun hv hend
    exact returned_of_ended loops' hu hrun hv hend

/-- With a limit of zero there is one permit. The unit of 5 has it, 6 waits for it, 7 fills the
channel, and discovery waits to announce 8. Then the feed crashes in the unit's lookup. -/
def crowdedInputs : List Input :=
  [.discovery none, .discovery (some (.ok (.ok ⟨5⟩))), .discovery none, .discovery none,
    .discovery (some (.ok (.ok ⟨9⟩))), .discovery none, .dispatch, .dispatch, .dispatch,
    .discovery none, .dispatch, .dispatch, .discovery none, .discovery none, .unit 0 none]

theorem backpressure_crowded :
    (∀ i ∈ crowdedInputs, i.isInternal = true) ∧
      Backpressure 1 (max 1 (min 0 4294967295)) ((start 1 0).run .sample crowdedInputs) ∧
      ((start 1 0).run .sample crowdedInputs).underWay = [⟨5⟩, ⟨6⟩, ⟨7⟩] ∧
      ((start 1 0).run .sample crowdedInputs).pipeline.channel.waiting = true ∧
      ((start 1 0).run .sample crowdedInputs).pipeline.dispatch.permits.free = 0 ∧
      (((start 1 0).run .sample crowdedInputs).step .sample
        (.unit 0 (some (.lookup (.error .poisonedFeed))))).pipeline.dispatch.permits.free = 1 :=
  ⟨by decide, backpressure (by decide), by decide, by decide, by decide, by decide⟩

end Pipeline
end FeedIngest
