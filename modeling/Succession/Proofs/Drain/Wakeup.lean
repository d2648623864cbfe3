import Succession.Proofs.Drain.Interleaving

/-!
# Waiting ends when the last guard has gone

Whoever waits registers, reads the count, and sleeps if the count is above zero. The last guard that
goes wakes everybody who has registered; but a new guard may have come before they read the count
again, and then they go back to sleep.

* `Reaches.returned`      a wait ends by nothing but a count of zero that the waiter itself reads;
* `Reaches.woken`         whoever sleeps when the count comes to zero is notified of it;
* `Sound.settle_finished` once all guards have gone and notified, every wait comes to its end;
* `wakes_when_idle`       all of it, in every order of the steps.
-/

namespace Succession.Tracked

variable {s s' t u : Tracked} {i : Nat}

/-! ## no early return -/

/-- the step in which a wait ends is the waiter's own look at a count of zero -/
theorem Step.finishes (h : Step s s') (hi : s.waiter? i ≠ some .finished)
    (hi' : s'.waiter? i = some .finished) :
    s' = s.stepped i ∧ s.tracker.active = 0 ∧
      ∃ notified, s.waiter? i = some (.registered notified) := by
  have ht := h.turn i
  rw [hi'] at ht
  generalize hp : s.waiter? i = p at ht hi
  generalize hp' : some WaiterPhase.finished = p' at ht
  cases ht with
  | stay => exact absurd hp'.symm hi
  | join => cases hp'
  | step p =>
    cases p with
    | registered notified =>
      refine ⟨rfl, ?_, notified, rfl⟩
      refine Decidable.byContradiction fun hne => ?_
      rw [WaiterPhase.step, if_neg hne] at hp'
      cases hp'
    | finished => exact absurd rfl hi
    | asleep notified => cases notified <;> cases hp'
    | _ => cases hp'
  | notify p =>
    cases p with
    | finished => exact absurd rfl hi
    | _ => cases hp'
  | cancel hp => cases hp'

/-- **A wait ends by nothing but a count of zero that the waiter itself reads.** -/
theorem Reaches.returned (h : Reaches s s') (hi : s.waiter? i ≠ some .finished)
    (hi' : s'.waiter? i = some .finished) :
    ∃ u notified, Reaches s u ∧ u.waiter? i = some (.registered notified) ∧
      u.tracker.active = 0 ∧ Reaches (u.stepped i) s' := by
  induction h with
  | refl => exact absurd hi' hi
  | @tail b c hreach hstep ih =>
    by_cases hb : b.waiter? i = some .finished
    · obtain ⟨u, notified, hu, hreg, hzero, hrest⟩ := ih hb
      exact ⟨u, notified, hu, hreg, hzero, hrest.tail hstep⟩
    · obtain ⟨rfl, hzero, notified, hreg⟩ := hstep.finishes hb hi'
      exact ⟨b, notified, hreach, hreg, hzero, .refl⟩

theorem waiter?_stepped_busy {notified : Bool} (hi : s.waiter? i = some (.registered notified))
    (hbusy : 0 < s.tracker.active) : (s.stepped i).waiter? i = some (.asleep notified) := by
  rw [waiter?_stepped hi, WaiterPhase.step, if_neg (Nat.ne_of_gt hbusy)]

/-- **Whoever is woken while there is a guard goes back to sleep**, in three steps of its own. -/
theorem back_to_sleep (hi : s.waiter? i = some (.asleep true)) (hbusy : 0 < s.tracker.active) :
    (((s.stepped i).stepped i).stepped i).waiter? i = some (.asleep false) := by
  have hwoken : (s.stepped i).waiter? i = some .starting := waiter?_stepped hi
  have hregistered : ((s.stepped i).stepped i).waiter? i = some (.registered false) :=
    waiter?_stepped hwoken
  exact waiter?_stepped_busy hregistered hbusy

/-! ## no lost wake-up -/

/-- the waiter has been notified, unless it has given up -/
def Woken (s : Tracked) (i : Nat) : Prop :=
  s.waiter? i = some (.asleep true) ∨ s.waiter? i = some .cancelled

theorem Step.sleeper (h : Step s s') (hi : s.waiter? i = some (.asleep false)) :
    s'.waiter? i = some (.asleep false) ∨ s'.Woken i := by
  have ht := h.turn i
  rw [hi] at ht
  unfold Woken
  generalize s'.waiter? i = p' at ht ⊢
  generalize hp : some (WaiterPhase.asleep false) = p at ht
  cases ht with
  | stay => exact .inl rfl
  | join => cases hp
  | step p =>
    obtain rfl := Option.some.inj hp
    exact .inl rfl
  | notify p =>
    obtain rfl := Option.some.inj hp
    exact .inr (.inl rfl)
  | cancel hne => exact .inr (.inr rfl)

/-- a guard that has to notify is still there after a step, unless it has notified everybody -/
theorem Step.not_quiet (h : Step s s') (hq : ¬ s.Quiet) :
    ¬ s'.Quiet ∨ ∀ i, s'.waiter? i ≠ some (.asleep false) := by
  obtain ⟨g, hg⟩ := List.mem_iff_getElem?.mp (Classical.not_not.mp hq)
  cases h with
  | enter => exact .inl fun hq' => hq' (List.mem_append_left _ (List.mem_of_getElem? hg))
  | @leave k hk =>
    have hne : k ≠ g := by
      rintro rfl
      rw [hk] at hg
      cases hg
    exact .inl (Tracked.not_quiet (g := g) ((List.getElem?_set_ne hne).trans hg))
  | notify => exact .inr fun i => waiter?_notifyAll s i _
  | _ => exact .inl hq

theorem Reaches.sleeper (h : Reaches s s') (hi : s.waiter? i = some (.asleep false)) :
    s'.waiter? i = some (.asleep false) ∨ ∃ u, Reaches s u ∧ Reaches u s' ∧ u.Woken i := by
  induction h with
  | refl => exact .inl hi
  | @tail b c hreach hstep ih =>
    obtain hb | ⟨u, hu, hrest, hw⟩ := ih
    · obtain hc | hw := hstep.sleeper hb
      · exact .inl hc
      · exact .inr ⟨c, hreach.tail hstep, .refl, hw⟩
    · exact .inr ⟨u, hu, hrest.tail hstep, hw⟩

/-- a notification that is due reaches whoever sleeps -/
theorem Reaches.notified (h : Reaches s s') (hi : s.waiter? i = some (.asleep false))
    (hq : ¬ s.Quiet) (hq' : s'.Quiet) : ∃ u, Reaches s u ∧ Reaches u s' ∧ u.Woken i := by
  -- at the head, since both the sleeper and the guard that has to notify are there at the start
  induction h using Relation.ReflTransGen.head_induction_on with
  | refl => exact absurd hq' hq
  | @head b c hstep hreach ih =>
    obtain hc | hw := hstep.sleeper hi
    · obtain hdue | hall := hstep.not_quiet hq
      · obtain ⟨u, hu, hrest, hw⟩ := ih hc hdue
        exact ⟨u, .head hstep hu, hrest, hw⟩
      · exact absurd hc (hall i)
    · exact ⟨c, .single hstep, hreach, hw⟩

/-- **Whoever sleeps when the count comes to zero is woken** before all notifications are made. -/
theorem Reaches.woken (h : Reaches s t) (hs : s.Sound) (hi : s.waiter? i = some (.asleep false))
    (hzero : t.tracker.active = 0) (h' : Reaches t s') (hq' : s'.Quiet) :
    ∃ u, Reaches s u ∧ Reaches u s' ∧ u.Woken i := by
  obtain ht | ⟨u, hu, hrest, hw⟩ := h.sleeper hi
  · obtain hpos | hdue := (h.sound hs).awaited i ht
    · exact absurd hzero (Nat.ne_of_gt hpos)
    · obtain ⟨u, hu, hrest, hw⟩ := h'.notified ht hdue hq'
      exact ⟨u, h.trans hu, hrest, hw⟩
  · exact ⟨u, hu, hrest.trans h', hw⟩

/-- **Once all guards have gone and notified, every wait comes to its end** by steps of its own. -/
theorem Sound.settle_finished {p : WaiterPhase} (hs : s.Sound) (hq : s.Quiet)
    (hzero : s.tracker.active = 0) (hi : s.waiter? i = some p) (hp : p ≠ .cancelled) :
    s.tracker.settle.isFinished i = true := by
  have hawake : p ≠ .asleep false := by
    rintro rfl
    obtain hpos | hdue := hs.awaited i hi
    · exact absurd hzero (Nat.ne_of_gt hpos)
    · exact hdue hq
  have hfinished : p.settle 0 = .finished := by
    cases p with
    | asleep notified =>
      cases notified with
      | true => rfl
      | false => exact absurd rfl hawake
    | cancelled => exact absurd rfl hp
    | _ => rfl
  have hw : s.tracker.settle.waiters[i]? = some .finished := by
    show (s.tracker.waiters.map _)[i]? = _
    rw [List.getElem?_map, show s.tracker.waiters[i]? = some p from hi, hzero]
    exact congrArg some hfinished
  unfold Tracker.isFinished
  rw [hw]
  rfl

/-! ## in every order -/

/-- **No wait ends early and no wake-up is lost.** Whatever the order of the steps: the count is the
number of the guards that are there; a wait ends only by a count of zero that the waiter reads after
it was last awake; between the notifications, nobody sleeps without a guard to wait for; who is
woken while there is a guard goes back to sleep, and whoever sleeps is woken when the count next
comes to zero; and when all guards have gone and notified, every wait that was not given up comes to
its end. -/
theorem wakes_when_idle (h : Reaches new s) :
    (s.tracker.active = s.live ∧ ∀ g : Nat, s.guards[g]? = some .live → 0 < s.tracker.active) ∧
    (∀ i s', Reaches s s' → s.waiter? i ≠ some .finished → s'.waiter? i = some .finished →
      ∃ u notified, Reaches s u ∧ u.waiter? i = some (.registered notified) ∧
        u.tracker.active = 0 ∧ Reaches (u.stepped i) s') ∧
    (s.Quiet → ∀ i, s.waiter? i = some (.asleep false) → 0 < s.tracker.active) ∧
    (∀ i, s.waiter? i = some (.asleep true) → 0 < s.tracker.active →
      (((s.stepped i).stepped i).stepped i).waiter? i = some (.asleep false)) ∧
    (∀ i t s', s.waiter? i = some (.asleep false) → Reaches s t → t.tracker.active = 0 →
      Reaches t s' → s'.Quiet → ∃ u, Reaches s u ∧ Reaches u s' ∧ u.Woken i) ∧
    (s.Quiet → s.tracker.active = 0 → ∀ i p, s.waiter? i = some p → p ≠ .cancelled →
      s.tracker.settle.isFinished i = true) := by
  have hs : s.Sound := h.sound sound_new
  refine ⟨⟨hs.active, fun g hg => hs.active_pos hg⟩, ?_, ?_, ?_, ?_, ?_⟩
  · exact fun i s' hrun hi hi' => hrun.returned hi hi'
  · intro hq i hi
    obtain hpos | hdue := hs.awaited i hi
    · exact hpos
    · exact absurd hq hdue
  · exact fun i hi hbusy => back_to_sleep hi hbusy
  · exact fun i t s' hi hrun hzero hrest hq => hrun.woken hs hi hzero hrest hq
  · exact fun hq hzero i p hi hp => hs.settle_finished hq hzero hi hp

/-! ## a guard that comes in between -/

namespace Between

/-- the first guard has gone and notified, but a second one has come before -/
def woken : Tracked := ⟨⟨1, [.asleep true]⟩, [.gone, .live]⟩

theorem reaches_woken : Reaches new woken := by
  have henter : Step new ⟨⟨1, []⟩, [.live]⟩ := .enter
  have hjoin : Step ⟨⟨1, []⟩, [.live]⟩ ⟨⟨1, [.starting]⟩, [.live]⟩ := .join
  have hsleep : Reaches ⟨⟨1, [.starting]⟩, [.live]⟩ ⟨⟨1, [.asleep false]⟩, [.live]⟩ :=
    reaches_settle _
  have hleave : Step ⟨⟨1, [.asleep false]⟩, [.live]⟩ ⟨⟨0, [.asleep false]⟩, [.leaving]⟩ :=
    .leave (g := 0) rfl
  have hcome : Step ⟨⟨0, [.asleep false]⟩, [.leaving]⟩
      ⟨⟨1, [.asleep false]⟩, [.leaving, .live]⟩ := .enter
  have hnotify : Step ⟨⟨1, [.asleep false]⟩, [.leaving, .live]⟩ woken := .notify (g := 0) rfl
  exact .head henter (.head hjoin (hsleep.trans (.head hleave (.head hcome (.single hnotify)))))

/-- the waiter sleeps again, and the second guard goes as well -/
theorem reaches_idle : Reaches woken ⟨⟨0, [.asleep true]⟩, [.gone, .gone]⟩ := by
  have hsleep : Reaches woken ⟨⟨1, [.asleep false]⟩, [.gone, .live]⟩ := reaches_settle _
  exact hsleep.trans (reaches_drop (g := 1) rfl)

end Between

theorem wakes_when_idle_between :
    Reaches new Between.woken ∧
    Between.woken.waiter? 0 = some (.asleep true) ∧ 0 < Between.woken.tracker.active ∧
    (((Between.woken.stepped 0).stepped 0).stepped 0).waiter? 0 = some (.asleep false) ∧
    Reaches new ⟨⟨0, [.asleep true]⟩, [.gone, .gone]⟩ ∧
    (Tracker.settle ⟨0, [.asleep true]⟩).isFinished 0 = true := by
  have hidle := Between.reaches_woken.trans Between.reaches_idle
  obtain ⟨-, -, -, hback, -, -⟩ := wakes_when_idle Between.reaches_woken
  obtain ⟨-, -, -, -, -, hend⟩ := wakes_when_idle hidle
  have hquiet : Quiet ⟨⟨0, [.asleep true]⟩, [.gone, .gone]⟩ := by
    unfold Quiet
    decide
  exact ⟨Between.reaches_woken, rfl, Nat.one_pos, hback 0 rfl Nat.one_pos, hidle,
    hend hquiet rfl 0 _ rfl nofun⟩

end Succession.Tracked
