import Succession.Proofs.Drain.Lasting
import Succession.Proofs.Server.Fate

/-!
# How a server ends

A server is given signals while time goes by. It has ended well when the connections of its listeners
have gone or its drain has lasted long enough, and by force when the first of its forced ends is due.
Which of the two comes first can be told from the signals and the connections alone.

* `Service.endsAt`, `Service.armings`   when the graceful end begins, and what is armed;
* `Fate.follow`                         what becomes of a server along its cues;
* `Service.ends`                        how and when it exits.
-/

namespace Succession.Service

/-- the clock at the first signal to end -/
def endsAt (clock : Nat) : List Cue → Option Nat
  | [] => none
  | .pass millis :: rest => endsAt (clock + millis) rest
  | .dispatch .reload :: rest => endsAt clock rest
  | .dispatch _ :: _ => some clock

/-- the forced ends: one for each reload, and one for the first signal to end -/
def armings (clock : Nat) (running : Bool) : List Cue → List Arming
  | [] => []
  | .pass millis :: rest => armings (clock + millis) running rest
  | .dispatch .reload :: rest => ⟨clock, .reload⟩ :: armings clock running rest
  | .dispatch signal :: rest =>
    if running then ⟨clock, signal⟩ :: armings clock false rest else armings clock false rest

namespace Run

def obey (r : Run) : Cue → Run
  | .dispatch signal => r.dispatch signal
  | .pass millis => r.advance millis

def follow (r : Run) (cues : List Cue) : Run := cues.foldl obey r

end Run

theorem armings_ne_nil {clock t₀ : Nat} {cues : List Cue} (h : endsAt clock cues = some t₀) :
    armings clock true cues ≠ [] := by
  induction cues generalizing clock with
  | nil => cases h
  | cons cue cues ih =>
    cases cue with
    | pass millis => exact ih h
    | dispatch signal => cases signal <;> exact List.cons_ne_nil _ _

theorem endsAt_append {clock t₀ : Nat} {cues : List Cue} (h : endsAt clock cues = some t₀)
    (more : List Cue) : endsAt clock (cues ++ more) = some t₀ := by
  induction cues generalizing clock with
  | nil => cases h
  | cons cue cues ih =>
    cases cue with
    | pass millis => exact ih h
    | dispatch signal =>
      cases signal with
      | reload => exact ih h
      | interrupt | terminate => exact h

/-- signals to end arm nothing but the first time -/
theorem armings_further {clock : Nat} {running : Bool} {cues : List Cue} {signal : Signal}
    (h : running = true → ∃ t₀, endsAt clock cues = some t₀) (hsignal : signal ≠ .reload)
    (more : List Cue) :
    armings clock running (cues ++ .dispatch signal :: more) =
      armings clock running (cues ++ more) := by
  induction cues generalizing clock running with
  | nil =>
    cases running with
    | true =>
      obtain ⟨t₀, hends⟩ := h rfl
      cases hends
    | false =>
      cases signal with
      | reload => exact absurd rfl hsignal
      | interrupt | terminate => rfl
  | cons cue cues ih =>
    cases cue with
    | pass millis => exact ih h
    | dispatch signal' =>
      cases signal' with
      | reload => exact congrArg (_ :: ·) (ih h)
      | interrupt | terminate =>
        have hrest : armings clock false (cues ++ _) = armings clock false (cues ++ _) := ih nofun
        cases running with
        | true => exact congrArg (_ :: ·) hrest
        | false => exact hrest

theorem armings_cons (clock : Nat) (began : Option Nat) (cue : Cue) (cues : List Cue) :
    armings clock began.isNone [cue] ++
        armings (clock + elapsed [cue]) (began.or (endsAt clock [cue])).isNone cues =
      armings clock began.isNone (cue :: cues) := by
  cases cue with
  | pass millis =>
    show [] ++ armings (clock + millis) (began.or none).isNone cues = _
    rw [Option.or_none]
    rfl
  | dispatch signal =>
    cases signal with
    | reload =>
      show [_] ++ armings clock (began.or none).isNone cues = _
      rw [Option.or_none]
      rfl
    | interrupt | terminate => cases began <;> rfl

theorem endsAt_cons (clock : Nat) (began : Option Nat) (cue : Cue) (cues : List Cue) :
    began.or (endsAt clock (cue :: cues)) =
      (began.or (endsAt clock [cue])).or (endsAt (clock + elapsed [cue]) cues) := by
  rw [Option.or_assoc]
  cases cue with
  | pass => rfl
  | dispatch signal => cases signal <;> rfl

theorem elapsed_cons (cue : Cue) (cues : List Cue) :
    elapsed (cue :: cues) = elapsed [cue] + elapsed cues := by
  cases cue with
  | pass => rfl
  | dispatch => exact (Nat.zero_add _).symm

namespace Fate

variable {closed : Pool} {stay : Nat} {timeout : Duration} {began : Option Nat} {a : Armory}
  {s : Service} {e : Executor Unit} {c : Coordinator}

theorem fresh {pool : Pool} {drainTimeout : Duration} {departures : List Departure}
    (hend : pool.closeAndDrain drainTimeout departures = (.after stay, closed))
    (timeout : Duration) :
    Fate closed stay timeout none .empty
      (Service.begin pool drainTimeout departures timeout).running.1
      (Service.begin pool drainTimeout departures timeout).running.2 :=
  ⟨Armory.holds_new timeout, .before rfl hend rfl rfl List.not_mem_nil, nofun,
    fun h => absurd rfl h, nofun, nofun⟩

/-- a signal to end, which begins the graceful end unless that has begun -/
theorem dispatch_end (f : Fate closed stay timeout began a s e) {signal : Signal}
    (hact : c.act target signal s = Coordinator.onShutdown target c signal s) :
    ∃ a' : Armory,
      a'.all = a.all ++ (if began.isNone then [⟨e.clock, signal⟩] else []) ∧
      Fate closed stay timeout (began.or (some e.clock)) a'
        (c.dispatch target signal s).2.target
        (e.spawn () timeout (c.dispatch target signal s).2.aftermath) := by
  have hdispatch : (c.dispatch target signal s).2 = Coordinator.onShutdown target c signal s := hact
  rw [hdispatch]
  cases hstage : f.stage with
  | before hstate hend =>
    have hrunning : ¬ target.state s ≠ .running := not_not.mpr hstate
    have hshutdown : target.shutdown (target.setState .shuttingDown s) =
        (.after stay, { s with state := .shuttingDown, pool := closed, cancelled := true }) := by
      show shutdown { s with state := .shuttingDown } = _
      unfold shutdown
      dsimp only
      rw [hend]
    unfold Coordinator.onShutdown
    rw [if_neg hrunning, hshutdown]
    exact f.begin signal
  | during t₀ _ hphase =>
    have hending : target.state s ≠ .running := hphase.state_ne.2
    unfold Coordinator.onShutdown
    rw [if_pos hending]
    exact ⟨a, (List.append_nil _).symm, f⟩

/-- **A signal** arms what its kind arms. -/
theorem dispatch (f : Fate closed stay timeout began a s e) (signal : Signal) :
    ∃ a' : Armory, a'.all = a.all ++ armings e.clock began.isNone [.dispatch signal] ∧
      Fate closed stay timeout (began.or (endsAt e.clock [.dispatch signal])) a'
        (c.dispatch target signal s).2.target
        (e.spawn () timeout (c.dispatch target signal s).2.aftermath) := by
  cases signal with
  | reload =>
    show ∃ a' : Armory, _ ∧ Fate closed stay timeout (began.or none) a' _ _
    rw [Option.or_none]
    exact f.reload
  | interrupt => exact f.dispatch_end rfl
  | terminate => exact f.dispatch_end rfl

theorem acts {ended : Service → Bool} {r r' : Running Unit Service}
    (f : Fate closed stay timeout began a r.1 r.2)
    (hacts : Executor.Acts (fun _ => target) ended r r') :
    ∃ a' : Armory, a'.all = a.all ∧ Fate closed stay timeout began a' r'.1 r'.2 := by
  induction hacts with
  | refl => exact ⟨a, rfl, f⟩
  | tail _ hact ih =>
    obtain ⟨a', hall, f'⟩ := ih
    obtain ⟨a'', hall', f''⟩ := f'.act hact
    exact ⟨a'', hall'.trans hall, f''⟩

theorem obey {r : Run} (f : Fate closed stay timeout began a r.running.1 r.running.2)
    (hready : r.running.2.ready = []) (htimeout : r.coordinator.hammerTimeout = timeout)
    (cue : Cue) :
    (∃ a' : Armory, a'.all = a.all ++ armings r.running.2.clock began.isNone [cue] ∧
      Fate closed stay timeout (began.or (endsAt r.running.2.clock [cue])) a'
        (r.obey cue).running.1 (r.obey cue).running.2) ∧
      (r.obey cue).running.2.ready = [] ∧
      (r.obey cue).running.2.clock = r.running.2.clock + elapsed [cue] ∧
      (r.obey cue).coordinator.hammerTimeout = timeout := by
  obtain ⟨⟨s, e⟩, c⟩ := r
  dsimp only at f hready htimeout
  subst htimeout
  cases cue with
  | dispatch signal =>
    obtain ⟨a', hall, f'⟩ := f.dispatch (c := c) signal
    obtain ⟨hacts, hquiet⟩ := Executor.settle_acts (fun _ => target) (fun _ => false)
      ((c.dispatch target signal s).2.target,
        e.spawn () c.hammerTimeout (c.dispatch target signal s).2.aftermath)
    obtain ⟨a'', hall', f''⟩ := f'.acts hacts
    refine ⟨⟨a'', hall'.trans hall, f''⟩, hquiet.resolve_left Bool.false_ne_true, ?_,
      dispatch_hammerTimeout target c signal s⟩
    exact (Executor.clock_runReady ..).trans (Executor.timers_spawn ..).2
  | pass millis =>
    obtain ⟨hacts, hend⟩ := Executor.advance_acts (r := (s, e)) (fun _ => target)
      (fun _ => false) f.holds.timely hready millis
    obtain ⟨hquiet, hclock⟩ := hend.resolve_left Bool.false_ne_true
    obtain ⟨a', hall, f'⟩ := f.acts hacts
    refine ⟨⟨a', ?_, ?_⟩, hquiet, hclock, rfl⟩
    · exact hall.trans (List.append_nil _).symm
    · show Fate closed stay c.hammerTimeout (began.or none) a' _ _
      rw [Option.or_none]
      exact f'

/-- **Cue after cue** -/
theorem follow {r : Run} (f : Fate closed stay timeout began a r.running.1 r.running.2)
    (hready : r.running.2.ready = []) (htimeout : r.coordinator.hammerTimeout = timeout)
    (cues : List Cue) :
    (∃ a' : Armory, a'.all = a.all ++ armings r.running.2.clock began.isNone cues ∧
      Fate closed stay timeout (began.or (endsAt r.running.2.clock cues)) a'
        (r.follow cues).running.1 (r.follow cues).running.2) ∧
      (r.follow cues).running.2.ready = [] ∧
      (r.follow cues).running.2.clock = r.running.2.clock + elapsed cues := by
  induction cues generalizing r began a with
  | nil =>
    refine ⟨⟨a, (List.append_nil _).symm, ?_⟩, hready, rfl⟩
    show Fate closed stay timeout (began.or none) a _ _
    rw [Option.or_none]
    exact f
  | cons cue cues ih =>
    obtain ⟨⟨a', hall, f'⟩, hready', hclock, htimeout'⟩ := f.obey hready htimeout cue
    obtain ⟨⟨a'', hall', f''⟩, hready'', hclock'⟩ := ih f' hready' htimeout'
    have harmings := armings_cons r.running.2.clock began cue cues
    have hends := endsAt_cons r.running.2.clock began cue cues
    rw [← hclock] at harmings hends
    refine ⟨⟨a'', ?_, ?_⟩, hready'', ?_⟩
    · rw [hall', hall, List.append_assoc, harmings]
    · rw [hends]
      exact f''
    · rw [elapsed_cons, ← Nat.add_assoc, ← hclock]
      exact hclock'

end Fate

/-- **How a server ends**: well, when its drain is over, if no forced end is due before, and else by
force, when the first of its forced ends is due. From the first signal to end on its listeners are
closed, and further signals to end change nothing of this. -/
theorem ends {pool : Pool} {connections : List Connection} (hpool : pool.Sound)
    (hserves : pool.Serves connections) (drainTimeout hammerTimeout : Duration) (cues : List Cue) :
    let r := (Service.begin pool drainTimeout (departuresOf connections) hammerTimeout).follow cues
    let deadlines := (armings 0 true cues).map (·.deadline hammerTimeout)
    let t := elapsed cues
    r.running.2.clock = t ∧
      (endsAt 0 cues = none →
        r.service.state = .running ∧
          r.service.exits.head? = if ∃ m ∈ deadlines, m ≤ t then some 1 else none) ∧
      ∀ t₀, endsAt 0 cues = some t₀ →
        let c := t₀ + pool.lastsFor drainTimeout.timerMillis connections
        (∀ id ∈ pool.snapshot, r.service.pool.isClosed id = true) ∧
          (∀ signal more, signal ≠ .reload →
            endsAt 0 (cues ++ .dispatch signal :: more) = some t₀ ∧
              armings 0 true (cues ++ .dispatch signal :: more) =
                armings 0 true (cues ++ more)) ∧
          ∃ m, deadlines.min? = some m ∧
            (c < m →
              r.service.state = (if c ≤ t then .terminate else .shuttingDown) ∧
                r.service.exits.head? = if c ≤ t then some 0 else none) ∧
            (m < c → r.service.exits.head? = if m ≤ t then some 1 else none) := by
  intro r deadlines t
  have hend := Pool.closeAndDrain_eq hserves drainTimeout
  obtain ⟨⟨a, hall, f⟩, hready, hclock⟩ := (Fate.fresh hend hammerTimeout).follow rfl rfl cues
  have hnow : r.running.2.clock = t := hclock.trans (Nat.zero_add _)
  have hdeadlines : a.all.map (Arming.deadline hammerTimeout) = deadlines :=
    congrArg (List.map _) hall
  have f : Fate pool.closeAll (pool.lastsFor drainTimeout.timerMillis connections) hammerTimeout
      (endsAt 0 cues) a r.service r.running.2 := f
  refine ⟨hnow, fun hnone => ?_, fun t₀ hends => ?_⟩
  · rw [hnone] at f
    have hforced := f.resting_forced hready nofun
    rw [hdeadlines, hnow] at hforced
    cases f.stage with
    | before hstate => exact ⟨hstate, hforced⟩
  · rw [hends] at f
    intro c
    have hclosed : r.service.pool = pool.closeAll := by
      cases f.stage with
      | during _ hpool => exact hpool
    refine ⟨fun id hid => hclosed ▸ hpool.isClosed_closeAll hid, fun signal more hsignal =>
      ⟨endsAt_append hends _, armings_further (fun _ => ⟨t₀, hends⟩) hsignal more⟩, ?_⟩
    obtain ⟨m, hm⟩ : ∃ m, deadlines.min? = some m :=
      Option.isSome_iff_exists.mp (List.isSome_min?_of_ne_nil (mt List.map_eq_nil_iff.mp
        (armings_ne_nil hends)))
    obtain ⟨hmem, hleast⟩ := List.min?_eq_some_iff.mp hm
    refine ⟨m, hm, fun hlt => ?_, fun hlt => ?_⟩
    · have hwell := f.resting_well hready fun m' hm' =>
        Nat.lt_of_lt_of_le hlt (hleast m' (hdeadlines ▸ hm'))
      rw [hnow] at hwell
      exact hwell
    · have hforced := f.resting_forced hready fun t₁ h =>
        ⟨m, hdeadlines ▸ hmem, Option.some.inj h ▸ hlt⟩
      rw [hdeadlines, hnow] at hforced
      rw [hforced]
      refine if_congr ⟨?_, fun hdue => ⟨m, hmem, hdue⟩⟩ rfl rfl
      rintro ⟨m', hm', hdue⟩
      exact Nat.le_trans (hleast m' hm') hdue

/-- a connection goes two milliseconds into the end, before the forced end of a reload is due -/
theorem ends_before_hammer :
    let pool : Pool := ⟨[⟨⟨0, "127.0.0.1:80"⟩, false⟩], [⟨1, []⟩], [some 0]⟩
    let connections : List Connection := [⟨0, some 2⟩]
    let cues : List Cue := [.dispatch .reload, .pass 2, .dispatch .interrupt, .pass 2]
    let r :=
      (Service.begin pool (.ofMillis 10) (departuresOf connections) (.ofMillis 5)).follow cues
    pool.Sound ∧ pool.Serves connections ∧ r.service.state = .terminate ∧
      r.service.exits.head? = some 0 := by
  intro pool connections cues r
  have hpool : pool.Sound := by
    intro id hid
    rw [List.mem_singleton.mp hid]
    exact Nat.one_pos
  have hserves : pool.Serves connections := by
    intro id
    cases id <;> rfl
  obtain ⟨-, -, hend⟩ := ends hpool hserves (.ofMillis 10) (.ofMillis 5) cues
  obtain ⟨-, -, m, hm, hwell, -⟩ := hend 2 rfl
  obtain rfl : 5 = m := Option.some.inj hm
  obtain ⟨hstate, hexit⟩ := hwell (by decide)
  exact ⟨hpool, hserves, hstate, hexit⟩

end Succession.Service
