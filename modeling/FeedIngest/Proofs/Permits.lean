import FeedIngest.Proofs.Moves
import FeedIngest.Proofs.UnitOfWork.Ledger

/-! Permits are conserved. Those that are available, those that are held for the taker that
waits, and one for each running unit of work are all there are, after any inputs and however the
units end. A taker goes on waiting only where nothing is available. -/

namespace FeedIngest

namespace Permits

variable {p p' : Permits} {n : Nat} {needed : Option Nat}

/-- How many permits are held for the taker that waits. -/
def held (p : Permits) : Nat := p.waiting.elim 0 PermitWait.held

/-- How many permits are with no unit of work. -/
def free (p : Permits) : Nat := p.available + p.held

/-- Only a taker that needs as many waits, and what it lacks is not available. -/
def WaitsFor (p : Permits) (needed : Option Nat) : Prop :=
  ∀ w, p.waiting = some w →
    needed = some w.needed ∧ w.held ≤ w.needed ∧ (w.held < w.needed → p.available = 0)

theorem WaitsFor.of_none (h : p.waiting = none) : p.WaitsFor needed := by
  intro w hw
  rw [h] at hw
  cases hw

theorem WaitsFor.waiting_eq_none (h : p.WaitsFor none) : p.waiting = none := by
  cases hw : p.waiting with
  | none => rfl
  | some w => cases (h w hw).1

/-- What is taken at once is no longer free. -/
theorem acquire_got (hw : p.WaitsFor (some n)) (h : p.acquire n = (p', true)) :
    p'.total = p.total ∧ p'.waiting = none ∧ p'.free + n = p.free := by
  obtain ⟨total, available, waiting⟩ := p
  cases waiting with
  | some w =>
    obtain ⟨hn, hle, -⟩ := hw w rfl
    simp only [acquire] at h
    split at h
    case isTrue hh =>
      cases h
      cases hn
      refine ⟨rfl, rfl, ?_⟩
      simp only [free, held, Option.elim]
      omega
    case isFalse => cases h
  | none =>
    simp only [acquire] at h
    split at h
    case isTrue hh =>
      cases h
      refine ⟨rfl, rfl, ?_⟩
      simp only [free, held, Option.elim]
      omega
    case isFalse => cases h

/-- A taker that has to wait has the free permits held for it, which are too few. -/
theorem acquire_missed (hw : p.WaitsFor (some n)) (h : p.acquire n = (p', false)) :
    p'.total = p.total ∧ p'.WaitsFor (some n) ∧ p'.free = p.free ∧ p.free < n := by
  obtain ⟨total, available, waiting⟩ := p
  cases waiting with
  | some w =>
    simp only [acquire] at h
    split at h
    case isTrue => cases h
    case isFalse hlt =>
      cases h
      obtain ⟨hn, -, ha⟩ := hw w rfl
      cases hn
      have hzero : available = 0 := ha (Nat.lt_of_not_le hlt)
      refine ⟨rfl, hw, rfl, ?_⟩
      simp only [free, held, Option.elim]
      omega
  | none =>
    simp only [acquire] at h
    split at h
    case isTrue => cases h
    case isFalse hn =>
      cases h
      refine ⟨rfl, ?_, ?_, ?_⟩
      · rintro _ ⟨⟩
        exact ⟨rfl, by dsimp only; omega, fun _ => rfl⟩
      · simp [free, held]
      · simp only [free, held, Option.elim]
        omega

@[simp] theorem total_release (p : Permits) : p.release.total = p.total := by
  unfold release
  split
  · split <;> rfl
  · rfl

@[simp] theorem free_release (p : Permits) : p.release.free = p.free + 1 := by
  obtain ⟨total, available, waiting⟩ := p
  cases waiting with
  | none => rfl
  | some w =>
    simp only [release]
    split <;> simp only [free, held, Option.elim] <;> omega

theorem WaitsFor.release (h : p.WaitsFor needed) : p.release.WaitsFor needed := by
  obtain ⟨total, available, waiting⟩ := p
  cases waiting with
  | none => exact .of_none rfl
  | some w =>
    obtain ⟨hn, hle, ha⟩ := h w rfl
    simp only [Permits.release]
    split
    case isTrue hlt =>
      rintro _ ⟨⟩
      exact ⟨hn, hlt, fun _ => ha hlt⟩
    case isFalse hge =>
      rintro _ ⟨⟩
      exact ⟨hn, hle, fun hlt => absurd hlt hge⟩

@[simp] theorem total_forgo (p : Permits) : p.forgo.total = p.total := by
  unfold forgo
  split <;> rfl

@[simp] theorem waiting_forgo (p : Permits) : p.forgo.waiting = none := by
  obtain ⟨total, available, waiting⟩ := p
  cases waiting <;> rfl

@[simp] theorem free_forgo (p : Permits) : p.forgo.free = p.free := by
  obtain ⟨total, available, waiting⟩ := p
  cases waiting <;> rfl

end Permits

namespace UnitOfWork

/-- An end is final. -/
theorem Move.ended {loops : Loops} {now : Nat} {cancelled : Bool} {reply : Option Reply}
    {id : ItemId} {before after : Phase} {events : List Event}
    (m : Move loops now cancelled reply id before after events) (hb : before.isRunning = false) :
    after.isRunning = false := by
  cases m <;> first | rfl | cases hb

end UnitOfWork

namespace Dispatch

/-- How many permits the dispatcher may wait for. -/
def Phase.needs (total : Nat) : Phase → Option Nat
  | acquiring _ => some 1
  | draining _ => some total
  | _ => none

/-- All permits are accounted for. -/
structure Balanced (n : Nat) (d : Dispatch) : Prop where
  total : d.permits.total = n
  sum : d.permits.free + d.running.length = n
  waits : d.permits.WaitsFor (d.phase.needs n)

theorem balanced_start (limit : Nat) :
    Balanced (max 1 (min limit 4294967295)) (start limit) := by
  have ht : (Permits.ofLimit limit).total = max 1 (min limit 4294967295) := by
    show min (max limit 1) 4294967295 = max 1 (min limit 4294967295)
    omega
  exact ⟨ht, ht, .of_none rfl⟩

variable {loops : Loops} {now : Nat} {cancelled : Bool} {channel : Channel} {n : Nat}
  {d : Dispatch} {s : Step}

/-- The dispatcher changes the permits and its phase, and leaves the units alone. -/
theorem Balanced.change {p p' : Permits} {units : List UnitOfWork} {phase phase' : Phase}
    (h : Balanced n ⟨phase, p, units⟩) (ht : p'.total = p.total) (hf : p'.free = p.free)
    (hw : p'.WaitsFor (phase'.needs n)) : Balanced n ⟨phase', p', units⟩ := by
  refine ⟨ht.trans h.total, ?_, hw⟩
  show p'.free + _ = n
  rw [hf]
  exact h.sum

theorem Balanced.move (h : Balanced n d) (m : Move loops now cancelled channel d s) :
    Balanced n s.dispatch := by
  cases m with
  | rest => exact h
  | start => exact h.change rfl rfl h.waits
  | receive => exact h.change rfl rfl (.of_none h.waits.waiting_eq_none)
  | leave => exact h.change rfl rfl (.of_none h.waits.waiting_eq_none)
  | @forgo p => exact h.change p.total_forgo p.free_forgo (.of_none p.waiting_forgo)
  | @spawn p p' units id _ got =>
    obtain ⟨ht, hw, hf⟩ := Permits.acquire_got h.waits got
    refine ⟨ht.trans h.total, ?_, .of_none hw⟩
    have hsum : p.free + (units.filter UnitOfWork.isRunning).length = n := h.sum
    show p'.free + ((units ++ [UnitOfWork.create id]).filter UnitOfWork.isRunning).length = n
    rw [List.filter_append, List.length_append, ← hsum, ← hf]
    show _ + (_ + 1) = _
    omega
  | await _ missed =>
    obtain ⟨ht, hw, hf, -⟩ := Permits.acquire_missed h.waits missed
    exact h.change ht hf hw
  -- All permits are back, are taken at once and given back again.
  | @finish p p' units due got =>
    have htotal : p.total = n := h.total
    rw [htotal] at got
    obtain ⟨ht, hw, hf⟩ := Permits.acquire_got h.waits got
    refine h.change ht ?_ (.of_none hw)
    rw [← hf, ← ht.trans htotal]
    simp only [Permits.free, Permits.held, Permits.restore]
    omega
  | @linger p p' units due missed =>
    have htotal : p.total = n := h.total
    rw [htotal] at missed
    obtain ⟨ht, hw, hf, -⟩ := Permits.acquire_missed h.waits missed
    exact h.change ht hf hw
  | @timeOut p p' _ _ _ missed | @underflow p p' _ _ missed =>
    have htotal : p.total = n := h.total
    rw [htotal] at missed
    obtain ⟨ht, -, hf, -⟩ := Permits.acquire_missed h.waits missed
    exact h.change (p'.total_forgo.trans ht) (p'.free_forgo.trans hf) (.of_none p'.waiting_forgo)

section Unit
variable {index : Nat} {u v : UnitOfWork} {reply : Option UnitOfWork.Reply} {events : List Event}

/-- One unit fewer runs once a unit has ended, and its permit is free. -/
theorem withUnit_ended (there : d.units[index]? = some u) (hu : u.isRunning = true)
    (hv : v.isRunning = false) :
    (d.withUnit index u v).running.length + 1 = d.running.length ∧
      (d.withUnit index u v).permits.free = d.permits.free + 1 := by
  obtain ⟨before, after, hd, hset⟩ := UnitOfWork.exists_around there
  rw [withUnit, running, running, hset, hd, hu, hv]
  refine ⟨?_, Permits.free_release _⟩
  simp only [List.filter_append, List.filter_cons_of_pos hu, List.length_append,
    List.filter_cons_of_neg (Bool.not_eq_true _ ▸ hv), List.length_cons]
  omega

theorem withUnit_same (there : d.units[index]? = some u) (h : v.isRunning = u.isRunning) :
    (d.withUnit index u v).running.length = d.running.length ∧
      (d.withUnit index u v).permits = d.permits := by
  obtain ⟨before, after, hd, hset⟩ := UnitOfWork.exists_around there
  rw [withUnit, running, running, hset, hd, h, Bool.and_not_self]
  refine ⟨?_, rfl⟩
  simp only [List.filter_append, List.filter_cons, h, List.length_append]
  cases u.isRunning <;> rfl

theorem Balanced.withUnit (h : Balanced n d) (there : d.units[index]? = some u)
    (task : UnitOfWork.Move loops now cancelled reply u.id u.phase v.phase events) :
    Balanced n (d.withUnit index u v) := by
  by_cases hsame : v.isRunning = u.isRunning
  · obtain ⟨hr, hp⟩ := withUnit_same there hsame
    constructor
    · rw [hp]
      exact h.total
    · rw [hp, hr]
      exact h.sum
    · rw [hp]
      exact h.waits
  · have hu : u.isRunning = true := by
      cases hu : u.isRunning with
      | true => rfl
      | false =>
        have hv := task.ended (u.isRunning_eq.symm.trans hu)
        rw [hu, UnitOfWork.isRunning_eq] at hsame
        exact absurd hv hsame
    have hv : v.isRunning = false := by
      cases hv : v.isRunning with
      | false => rfl
      | true => exact absurd (hv.trans hu.symm) hsame
    obtain ⟨hr, hp⟩ := withUnit_ended there hu hv
    have hrelease : (d.withUnit index u v).permits = d.permits.release := by
      rw [Dispatch.withUnit, hu, hv]
      rfl
    constructor
    · rw [hrelease, Permits.total_release]
      exact h.total
    · have := h.sum
      omega
    · rw [hrelease]
      exact h.waits.release

end Unit

end Dispatch

/-- Whatever happens in whatever order, all permits are accounted for. -/
theorem Pipeline.balanced_run (loops : Loops) {p : Pipeline} {n : Nat}
    (h : p.dispatch.Balanced n) (inputs : List Input) :
    (p.run loops inputs).pipeline.dispatch.Balanced n := by
  apply run_induction (P := fun q _ => q.dispatch.Balanced n) h
  intro p i q events es _ m h
  cases m with
  | dispatch task => exact h.move task
  | unit there _ task => exact h.withUnit there task
  | runAgain returned =>
    have hw := h.waits
    rw [returned] at hw
    exact ⟨h.total, h.sum, hw⟩
  | _ => exact h

end FeedIngest
