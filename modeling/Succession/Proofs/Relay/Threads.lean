import Mathlib.Data.List.Basic
import Mathlib.Logic.Function.Basic
import Mathlib.Logic.Relation
import Succession.Daemon.Relay
import Succession.Proofs.Program.Exchanges

/-!
# Two threads relay a successor's output

Each stream of a successor has a thread that reads it, in pieces of any size. A thread hands a line
to the logger when it has come to the line's end, or to the end of the stream. It is done at the end
of the stream, at the first line that is no text, and at the first call that does not come back. The
two threads take their steps in any order.

* `Thread.Step`, `Threads.Step`, `Threads.Reaches`   one thread, and both;
* `Thread.work`, `Thread.exists_step`   every relay comes to its end;
* `Thread.Stands output t calls`        a thread in the middle of a stream: what it has handed over,
                                        and what is still to come;
* `Delivered output t calls`            what has come of a stream when its thread is done;
* `Threads.delivers`                    what the logger is told, in every order of the steps;
* `Threads.delivers_nothing_behind`     output that nobody is told of.
-/

namespace Succession.Relay

inductive Stream where
  | stdout
  | stderr
deriving DecidableEq, Repr

/-- the logger was called with a line, and came back or not -/
structure Call where
  line : String
  back : Bool
deriving DecidableEq, Repr

inductive Phase where
  | reading
  /-- the stream is at its end -/
  | ended
  /-- a line was no text -/
  | balked
  /-- the logger panicked -/
  | unwound
deriving DecidableEq, Repr

structure Thread where
  /-- what the stream has still to give, whether it is written yet or not -/
  unread : Bytes
  /-- what was read and has not been looked at -/
  buffer : Bytes
  /-- the current line so far, in reverse -/
  begun : Bytes
  phase : Phase
deriving DecidableEq, Repr

namespace Thread

def start (output : Bytes) : Thread := ⟨output, [], [], .reading⟩

/-- a complete line: the call that it makes, and how the thread goes on then -/
def offer (line : Bytes) (back : Bool) : Option Call × Phase :=
  match Bytes.text? line with
  | none => (none, .balked)
  | some text => (some ⟨text, back⟩, if back then .reading else .unwound)

inductive Step : Thread → Option Call → Thread → Prop where
  /-- the system gives as much as it likes -/
  | read (piece : Bytes) {rest begun : Bytes} (hpiece : piece ≠ []) :
      Step ⟨piece ++ rest, [], begun, .reading⟩ none ⟨rest, piece, begun, .reading⟩
  /-- the line goes on behind what was read -/
  | gather {unread buffer begun : Bytes} (hbuffer : buffer ≠ []) (hline : newline ∉ buffer) :
      Step ⟨unread, buffer, begun, .reading⟩ none ⟨unread, [], buffer.reverse ++ begun, .reading⟩
  | line (before : Bytes) {unread rest begun : Bytes} (back : Bool) (hline : newline ∉ before) :
      Step ⟨unread, before ++ newline :: rest, begun, .reading⟩
        (offer (chomp (begun.reverse ++ before)) back).1
        ⟨unread, rest, [], (offer (chomp (begun.reverse ++ before)) back).2⟩
  /-- the stream ends within a line -/
  | last {begun : Bytes} (back : Bool) (hbegun : begun ≠ []) :
      Step ⟨[], [], begun, .reading⟩ (offer begun.reverse back).1
        ⟨[], [], [], (offer begun.reverse back).2⟩
  | close : Step ⟨[], [], [], .reading⟩ none ⟨[], [], [], .ended⟩

/-- steps of one thread, and the calls that they make -/
inductive Runs : Thread → List Call → Thread → Prop where
  | refl (t : Thread) : Runs t [] t
  | step {t t' t'' : Thread} {call : Option Call} {calls : List Call} (h : Step t call t')
      (rest : Runs t' calls t'') : Runs t (call.toList ++ calls) t''

end Thread

/-- the threads of both streams, and the calls of the logger so far -/
structure Threads where
  thread : Stream → Thread
  calls : List (Stream × Call)

namespace Threads

def start (output : Stream → Bytes) : Threads := ⟨fun stream => .start (output stream), []⟩

def stepped (s : Threads) (stream : Stream) (call : Option Call) (t : Thread) : Threads :=
  ⟨Function.update s.thread stream t, s.calls ++ (call.map (stream, ·)).toList⟩

inductive Step (s : Threads) : Threads → Prop where
  | step {stream : Stream} {call : Option Call} {t : Thread}
      (h : (s.thread stream).Step call t) : Step s (s.stepped stream call t)

abbrev Reaches : Threads → Threads → Prop := Relation.ReflTransGen Step

def told (s : Threads) (stream : Stream) : List Call :=
  s.calls.filterMap fun c => if c.1 = stream then some c.2 else none

def Done (s : Threads) (stream : Stream) : Prop := (s.thread stream).phase ≠ .reading

instance (s : Threads) (stream : Stream) : Decidable (s.Done stream) :=
  inferInstanceAs (Decidable (_ ≠ _))

end Threads

/-! ## lines -/

section
variable {begun before rest : Bytes}

theorem linesFrom_gather (hline : newline ∉ before) :
    linesFrom begun (before ++ rest) = linesFrom (before.reverse ++ begun) rest := by
  induction before generalizing begun with
  | nil => rfl
  | cons b before ih =>
    obtain ⟨hb, hline⟩ := not_or.mp (mt List.mem_cons.mpr hline)
    show linesFrom begun (b :: (before ++ rest)) = _
    rw [linesFrom, if_neg (Ne.symm hb), ih hline, List.reverse_cons, List.append_assoc]
    rfl

theorem linesFrom_line (hline : newline ∉ before) :
    linesFrom begun (before ++ newline :: rest) =
      chomp (begun.reverse ++ before) :: linesFrom [] rest := by
  rw [linesFrom_gather hline, linesFrom, if_pos rfl, List.reverse_append, List.reverse_reverse]

theorem linesFrom_last (hbegun : begun ≠ []) : linesFrom begun [] = [begun.reverse] := by
  rw [linesFrom, if_neg hbegun]

end

/-! ## every relay comes to its end -/

namespace Thread

variable {t t' t'' : Thread} {call : Option Call} {calls : List Call} {output : Bytes}

/-- an unread byte is read, gathered and handed over; at last the thread ends -/
def work (t : Thread) : Nat :=
  3 * t.unread.length + 2 * t.buffer.length + t.begun.length + if t.phase = .reading then 1 else 0

theorem Step.reading (h : Step t call t') : t.phase = .reading := by
  cases h <;> rfl

theorem Step.work_lt (h : Step t call t') : t'.work < t.work := by
  have hphase (phase : Phase) : (if phase = .reading then 1 else 0) ≤ 1 := by
    split <;> omega
  cases h with
  | @read piece rest begun hpiece =>
    have hpos := List.length_pos_iff.mpr hpiece
    simp only [work, List.length_append, List.length_nil]
    omega
  | @gather unread buffer begun hbuffer hline =>
    have hpos := List.length_pos_iff.mpr hbuffer
    simp only [work, List.length_append, List.length_reverse, List.length_nil]
    omega
  | @line before unread rest begun back hline =>
    have hlast := hphase (offer (chomp (begun.reverse ++ before)) back).2
    simp only [work, List.length_append, List.length_cons, List.length_nil, if_true]
    omega
  | @last begun back hbegun =>
    have hpos := List.length_pos_iff.mpr hbegun
    have hlast := hphase (offer begun.reverse back).2
    simp only [work, List.length_nil, if_true]
    omega
  | close =>
    simp only [work, if_true, reduceCtorEq, if_false]
    omega

/-! ## what a step does with the lines -/

/-- the lines that are still to come, the current one first -/
def rest (t : Thread) : List Bytes := linesFrom t.begun (t.buffer ++ t.unread)

/-- a step only moves bytes on, or takes the next line, or finds that there is none -/
inductive Turn (t : Thread) : Option Call → Thread → Prop where
  | look {t' : Thread} (hphase : t'.phase = .reading) (hrest : t'.rest = t.rest) : Turn t none t'
  | take {t' : Thread} {line : Bytes} {back : Bool} (hrest : t.rest = line :: t'.rest)
      (hphase : t'.phase = (offer line back).2) : Turn t (offer line back).1 t'
  | close {t' : Thread} (hrest : t.rest = []) (hphase : t'.phase = .ended)
      (hread : t'.unread = [] ∧ t'.buffer = []) : Turn t none t'

theorem Step.turn (h : Step t call t') : Turn t call t' := by
  cases h with
  | read piece hpiece => exact .look rfl rfl
  | @gather unread buffer begun hbuffer hline => exact .look rfl (linesFrom_gather hline).symm
  | @line before unread rest begun back hline =>
    refine .take ?_ rfl
    show linesFrom begun (before ++ newline :: rest ++ unread) = _
    rw [List.append_assoc, List.cons_append]
    exact linesFrom_line hline
  | last back hbegun => exact .take (linesFrom_last hbegun) rfl
  | close => exact .close rfl rfl ⟨rfl, rfl⟩

/-- what a thread can do next, whether the logger will come back or not -/
inductive Ahead (t : Thread) : Prop where
  | look {t' : Thread} (h : Step t none t') (hphase : t'.phase = .reading)
      (hrest : t'.rest = t.rest)
  | take {line : Bytes} {later : List Bytes} (hrest : t.rest = line :: later)
      (h : ∀ back, ∃ t', Step t (offer line back).1 t' ∧ t'.phase = (offer line back).2 ∧
        t'.rest = later)
  | close {t' : Thread} (h : Step t none t') (hphase : t'.phase = .ended) (hrest : t.rest = [])

/-- **A thread that is reading can go on.** -/
theorem ahead (hphase : t.phase = .reading) : t.Ahead := by
  obtain ⟨unread, buffer, begun, phase⟩ := t
  obtain rfl : phase = .reading := hphase
  by_cases hbuffer : buffer = []
  · subst hbuffer
    by_cases hunread : unread = []
    · subst hunread
      by_cases hbegun : begun = []
      · subst hbegun
        exact .close .close rfl rfl
      · exact .take (linesFrom_last hbegun) fun back => ⟨_, .last back hbegun, rfl, rfl⟩
    · have hread : Step ⟨unread ++ [], [], begun, .reading⟩ none ⟨[], unread, begun, .reading⟩ :=
        .read unread hunread
      rw [List.append_nil] at hread
      refine .look hread rfl ?_
      show linesFrom begun (unread ++ []) = linesFrom begun unread
      rw [List.append_nil]
  · by_cases hline : newline ∈ buffer
    · obtain ⟨before, rest, rfl, hbefore⟩ := List.eq_append_cons_of_mem hline
      have hrest : linesFrom begun (before ++ newline :: rest ++ unread) =
          chomp (begun.reverse ++ before) :: linesFrom [] (rest ++ unread) := by
        rw [List.append_assoc, List.cons_append]
        exact linesFrom_line hbefore
      exact .take hrest fun back => ⟨_, .line before back hbefore, rfl, rfl⟩
    · exact .look (.gather hbuffer hline) rfl (linesFrom_gather hline).symm

theorem exists_step (hphase : t.phase = .reading) : ∃ call t', Step t call t' := by
  cases ahead hphase with
  | look h => exact ⟨_, _, h⟩
  | take _ h =>
    obtain ⟨t', h, -⟩ := h true
    exact ⟨_, _, h⟩
  | close h => exact ⟨_, _, h⟩

end Thread

/-! ## what a thread has handed over -/

def Call.exchange (c : Call) : Exchange := ⟨.log c.line, c.back⟩

/-- these calls hand over these lines, one each and in their order, and they all came back -/
structure Relayed (done : List Bytes) (calls : List Call) : Prop where
  lines : done.map Bytes.text? = calls.map fun c => some c.line
  back : ∀ c ∈ calls, c.back = true

section
variable {done later : List Bytes} {calls : List Call} {line : Bytes} {text : String}
  {xs : List Exchange}

theorem relayed_nil : Relayed [] [] := ⟨rfl, fun _ hc => nomatch hc⟩

theorem Relayed.concat (hdone : Relayed done calls) (htext : Bytes.text? line = some text) :
    Relayed (done ++ [line]) (calls ++ [⟨text, true⟩]) := by
  refine ⟨?_, fun c hc => ?_⟩
  · rw [List.map_append, List.map_append, hdone.lines, List.map_singleton, List.map_singleton,
      htext]
  · obtain hc | hc := List.mem_append.mp hc
    · exact hdone.back c hc
    · rw [List.mem_singleton.mp hc]

theorem textsOf_text (htext : Bytes.text? line = some text) :
    textsOf (line :: later) = text :: textsOf later := by
  rw [textsOf, htext]

theorem textsOf_garbled (htext : Bytes.text? line = none) : textsOf (line :: later) = [] := by
  rw [textsOf, htext]

theorem textsOf_append {texts : List String} (hdone : done.map Bytes.text? = texts.map some) :
    textsOf (done ++ later) = texts ++ textsOf later := by
  induction done generalizing texts with
  | nil =>
    obtain rfl : texts = [] := List.map_eq_nil_iff.mp hdone.symm
    rfl
  | cons line done ih =>
    cases texts with
    | nil => cases hdone
    | cons text texts =>
      obtain ⟨htext, hdone⟩ := List.cons.inj hdone
      rw [List.cons_append, textsOf_text htext, ih hdone, List.cons_append]

theorem Relayed.textsOf (hdone : Relayed done calls) (later : List Bytes) :
    textsOf (done ++ later) = calls.map (·.line) ++ textsOf later := by
  refine textsOf_append ?_
  rw [hdone.lines, List.map_map]
  rfl

theorem pump_cons (line : String) (later : List String) :
    pump (line :: later) =
      .ask (.log line) fun back => if back then pump later else .done () := rfl

/-- what a pump asks the logger first does not depend on what comes behind it -/
theorem takes_pump_append {later : List String} (hback : ∀ c ∈ calls, c.back = true)
    (hlater : (pump later).Takes xs ()) :
    (pump (calls.map (·.line) ++ later)).Takes (calls.map Call.exchange ++ xs) () := by
  induction calls with
  | nil => exact hlater
  | cons call calls ih =>
    have hrest := ih fun c hc => hback c (List.mem_cons_of_mem _ hc)
    rw [List.map_cons, List.cons_append, pump_cons]
    refine .ask (q := .log call.line) call.back ?_
    rw [hback call List.mem_cons_self]
    exact hrest

theorem Relayed.takes (hdone : Relayed done calls) (later : List Bytes)
    (hlater : (pump (Relay.textsOf later)).Takes xs ()) :
    (pump (Relay.textsOf (done ++ later))).Takes (calls.map Call.exchange ++ xs) () := by
  rw [hdone.textsOf]
  exact takes_pump_append hdone.back hlater

end

/-- how a thread stands with its stream when it has made some calls -/
inductive Thread.Stands (output : Bytes) (t : Thread) : List Call → Prop where
  | reading {done : List Bytes} {calls : List Call} (hphase : t.phase = .reading)
      (hdone : Relayed done calls) (hlines : lines output = done ++ t.rest) : Stands output t calls
  | ended {calls : List Call} (hphase : t.phase = .ended)
      (hread : t.unread = [] ∧ t.buffer = []) (hdone : Relayed (lines output) calls) :
      Stands output t calls
  | balked {done later : List Bytes} {line : Bytes} {calls : List Call}
      (hphase : t.phase = .balked) (hdone : Relayed done calls)
      (hlines : lines output = done ++ line :: later) (htext : Bytes.text? line = none) :
      Stands output t calls
  | unwound {done later : List Bytes} {line : Bytes} {text : String} {calls : List Call}
      (hphase : t.phase = .unwound) (hdone : Relayed done calls)
      (hlines : lines output = done ++ line :: later) (htext : Bytes.text? line = some text) :
      Stands output t (calls ++ [⟨text, false⟩])

/-- what has come of a stream when its thread is done -/
structure Delivered (output : Bytes) (t : Thread) (calls : List Call) : Prop where
  /-- the logger was asked what the pump of the whole stream asks it -/
  pumped : (pump (texts output)).Takes (calls.map Call.exchange) ()
  /-- unless it panicked, it was told the lines in front of the first that is no text, each once and
  in their order -/
  told : (∀ c ∈ calls, c.back = true) → calls.map (·.line) = texts output
  /-- the stream is read to its end exactly if no call panicked and every line is a text -/
  ended : t.phase = .ended ↔
    (∀ c ∈ calls, c.back = true) ∧ ∀ line ∈ lines output, Bytes.text? line ≠ none
  /-- and then every line was told, once and in order, and nothing is left -/
  whole : t.phase = .ended → (lines output).map Bytes.text? = calls.map (fun c => some c.line) ∧
    t.unread = [] ∧ t.buffer = []

namespace Thread

variable {t t' : Thread} {call : Option Call} {calls : List Call} {output : Bytes}

theorem stands_start (output : Bytes) : (start output).Stands output [] :=
  .reading rfl relayed_nil rfl

/-- **One step** keeps what was handed over and what is to come together. -/
theorem Stands.step (hs : t.Stands output calls) (h : Step t call t') :
    t'.Stands output (calls ++ call.toList) := by
  obtain ⟨done, hdone, hlines⟩ : ∃ done, Relayed done calls ∧ lines output = done ++ t.rest := by
    cases hs with
    | reading _ hdone hlines => exact ⟨_, hdone, hlines⟩
    | ended hphase | balked hphase | unwound hphase => cases h.reading.symm.trans hphase
  cases h.turn with
  | look hphase' hrest =>
    rw [Option.toList_none, List.append_nil]
    exact .reading hphase' hdone (hrest ▸ hlines)
  | @take _ line back hrest hphase' =>
    rw [hrest] at hlines
    unfold offer at hphase' ⊢
    split at hphase'
    · next htext =>
      show t'.Stands output (calls ++ [])
      rw [List.append_nil]
      exact .balked hphase' hdone hlines htext
    · next text htext =>
      cases back with
      | true =>
        refine .reading hphase' (hdone.concat htext) ?_
        rw [List.append_assoc]
        exact hlines
      | false => exact .unwound hphase' hdone hlines htext
  | close hrest hphase' hread =>
    rw [Option.toList_none, List.append_nil]
    rw [hrest, List.append_nil] at hlines
    exact .ended hphase' hread (hlines ▸ hdone)

theorem Stands.delivered (hs : t.Stands output calls) (hphase : t.phase ≠ .reading) :
    Delivered output t calls := by
  cases hs with
  | reading h => exact absurd h hphase
  | ended hended hread hdone =>
    have htexts := hdone.textsOf []
    rw [List.append_nil, textsOf, List.append_nil] at htexts
    refine ⟨?_, fun _ => htexts.symm, ?_, fun _ => ⟨hdone.lines, hread⟩⟩
    · have htakes := hdone.takes [] (.done ())
      rwa [List.append_nil, List.append_nil] at htakes
    · refine ⟨fun _ => ⟨hdone.back, fun line hline hnone => ?_⟩, fun _ => hended⟩
      have hmem := List.mem_map_of_mem (f := Bytes.text?) hline
      rw [hdone.lines, hnone] at hmem
      obtain ⟨c, -, hc⟩ := List.mem_map.mp hmem
      cases hc
  | @balked done later line _ hbalked hdone hlines htext =>
    have hne : t.phase ≠ .ended := by
      rw [hbalked]
      nofun
    have htexts := hdone.textsOf (line :: later)
    rw [textsOf_garbled htext, List.append_nil, ← hlines] at htexts
    refine ⟨?_, fun _ => htexts.symm, ?_, fun h => absurd h hne⟩
    · have htakes := hdone.takes (line :: later)
        (by rw [textsOf_garbled htext]; exact .done ())
      rwa [List.append_nil, ← hlines] at htakes
    · refine ⟨fun h => absurd h hne, fun h => absurd htext (h.2 line ?_)⟩
      rw [hlines]
      exact List.mem_append_right _ List.mem_cons_self
  | @unwound done later line text calls hunwound hdone hlines htext =>
    have hne : t.phase ≠ .ended := by
      rw [hunwound]
      nofun
    have hpanic : ¬ ∀ c ∈ calls ++ [⟨text, false⟩], c.back = true := fun h =>
      Bool.false_ne_true (h _ (List.mem_append_right _ List.mem_cons_self))
    refine ⟨?_, fun h => absurd h hpanic, ⟨fun h => absurd h hne, fun h => absurd h.1 hpanic⟩,
      fun h => absurd h hne⟩
    have hlast : (pump (Relay.textsOf (line :: later))).Takes [⟨.log text, false⟩] () := by
      rw [textsOf_text htext, pump_cons]
      exact .ask (q := .log text) false (.done ())
    have htakes := hdone.takes (line :: later) hlast
    rw [← hlines] at htakes
    rw [List.map_append]
    exact htakes

end Thread

/-! ## both threads -/

namespace Threads

variable {s s' : Threads} {stream : Stream} {call : Option Call} {t : Thread}
  {output : Stream → Bytes}

theorem thread_stepped (s : Threads) (stream other : Stream) (call : Option Call) (t : Thread) :
    (s.stepped stream call t).thread other = if other = stream then t else s.thread other :=
  Function.update_apply ..

theorem told_stepped (s : Threads) (stream other : Stream) (call : Option Call) (t : Thread) :
    (s.stepped stream call t).told other =
      s.told other ++ if other = stream then call.toList else [] := by
  show (s.calls ++ (call.map (stream, ·)).toList).filterMap _ = _
  rw [List.filterMap_append]
  congr 1
  cases call with
  | none => split <;> rfl
  | some c =>
    by_cases ho : other = stream
    · subst ho
      simp
    · simp [ho, Ne.symm ho]

def Sound (output : Stream → Bytes) (s : Threads) : Prop :=
  ∀ stream, (s.thread stream).Stands (output stream) (s.told stream)

theorem Step.sound (h : Step s s') (hs : s.Sound output) : s'.Sound output := by
  obtain @⟨stream, call, t, h⟩ := h
  intro other
  rw [thread_stepped, told_stepped]
  by_cases ho : other = stream
  · subst ho
    rw [if_pos rfl, if_pos rfl]
    exact (hs other).step h
  · rw [if_neg ho, if_neg ho, List.append_nil]
    exact hs other

theorem Reaches.sound (h : Reaches s s') (hs : s.Sound output) : s'.Sound output := by
  induction h with
  | refl => exact hs
  | tail _ hstep ih => exact hstep.sound ih

def work (s : Threads) : Nat := (s.thread .stdout).work + (s.thread .stderr).work

theorem Step.work_lt (h : Step s s') : s'.work < s.work := by
  obtain @⟨stream, call, t, h⟩ := h
  have hlt := h.work_lt
  unfold work
  cases stream with
  | stdout => simpa [thread_stepped] using hlt
  | stderr => simpa [thread_stepped] using hlt

/-- one of the threads goes on, and the other waits -/
theorem reaches_runs (s : Threads) (stream : Stream) {calls : List Call} {t' : Thread}
    (h : Thread.Runs t calls t') (ht : s.thread stream = t) :
    Reaches s ⟨Function.update s.thread stream t', s.calls ++ calls.map (stream, ·)⟩ := by
  induction h generalizing s with
  | refl t =>
    rw [← ht, Function.update_eq_self, List.map_nil, List.append_nil]
  | @step t t₁ t' call calls h rest ih =>
    subst ht
    have hrest := ih (s.stepped stream call t₁) (Function.update_self ..)
    refine .head (.step h) ?_
    have hcalls : (s.calls ++ (call.map (stream, ·)).toList) ++ calls.map (stream, ·) =
        s.calls ++ (call.toList ++ calls).map (stream, ·) := by
      rw [List.append_assoc, List.map_append]
      cases call <;> rfl
    have hthread : Function.update (Function.update s.thread stream t₁) stream t' =
        Function.update s.thread stream t' := Function.update_idem ..
    rw [← hcalls, ← hthread]
    exact hrest

end Threads

/-- whatever a pump asks the logger, and however that answers, a thread on the stream can do it -/
theorem Thread.exists_runs {t : Thread} {xs : List Exchange} (hphase : t.phase = .reading)
    (htakes : (pump (textsOf t.rest)).Takes xs ()) :
    ∃ calls t', Runs t calls t' ∧ t'.phase ≠ .reading ∧ calls.map Call.exchange = xs := by
  induction hn : t.work using Nat.strongRecOn generalizing t xs with
  | ind n ih =>
    subst hn
    have hgo {call : Option Call} {t' : Thread} {xs' : List Exchange} (h : Step t call t')
        (hphase' : t'.phase = .reading) (htakes' : (pump (textsOf t'.rest)).Takes xs' ())
        (hxs : xs = (call.map Call.exchange).toList ++ xs') :
        ∃ calls t', Runs t calls t' ∧ t'.phase ≠ .reading ∧ calls.map Call.exchange = xs := by
      obtain ⟨calls, t'', hruns, hdone, hcalls⟩ := ih _ h.work_lt hphase' htakes' rfl
      refine ⟨_, t'', .step h hruns, hdone, ?_⟩
      rw [hxs, List.map_append, hcalls]
      cases call <;> rfl
    have hstop {call : Option Call} {t' : Thread} (h : Step t call t')
        (hphase' : t'.phase ≠ .reading) (hxs : xs = (call.map Call.exchange).toList) :
        ∃ calls t', Runs t calls t' ∧ t'.phase ≠ .reading ∧ calls.map Call.exchange = xs := by
      refine ⟨_, t', .step h (.refl t'), hphase', ?_⟩
      rw [hxs, List.append_nil]
      cases call <;> rfl
    cases t.ahead hphase with
    | look h hphase' hrest => exact hgo h hphase' (hrest ▸ htakes) rfl
    | close h hphase' hrest =>
      rw [hrest] at htakes
      obtain ⟨rfl, -⟩ := Program.Takes.done_inv htakes
      exact hstop h (by rw [hphase']; nofun) rfl
    | @take line later hrest hoffer =>
      rw [hrest] at htakes
      cases htext : Bytes.text? line with
      | none =>
        rw [textsOf_garbled htext] at htakes
        obtain ⟨rfl, -⟩ := Program.Takes.done_inv htakes
        obtain ⟨t', h, hphase', -⟩ := hoffer true
        unfold offer at h hphase'
        rw [htext] at h hphase'
        exact hstop h (by rw [hphase']; nofun) rfl
      | some text =>
        rw [textsOf_text htext] at htakes
        obtain ⟨back, xs', rfl, htakes'⟩ := Program.Takes.ask_inv htakes
        obtain ⟨t', h, hphase', hlater⟩ := hoffer back
        unfold offer at h hphase'
        rw [htext] at h hphase'
        cases back with
        | true => exact hgo h hphase' (hlater ▸ htakes') rfl
        | false =>
          obtain ⟨rfl, -⟩ := Program.Takes.done_inv htakes'
          exact hstop h (by rw [hphase']; nofun) rfl

namespace Threads

/-- the two pumps, one after the other, are one of the orders of the steps -/
theorem reaches_relay {output : Stream → Bytes} {xs : List Exchange}
    (htakes : (relay (output .stdout) (output .stderr)).Takes xs ()) :
    ∃ s, Reaches (start output) s ∧ (∀ stream, s.Done stream) ∧
      s.calls.map (·.2.exchange) = xs := by
  obtain ⟨ys, zs, ⟨⟩, rfl, hout, herr⟩ := htakes.bind_inv
  obtain ⟨first, t, hruns, hdone, hfirst⟩ :=
    Thread.exists_runs (t := .start (output .stdout)) rfl hout
  obtain ⟨second, t', hruns', hdone', hsecond⟩ :=
    Thread.exists_runs (t := .start (output .stderr)) rfl herr
  have hreach := reaches_runs (start output) .stdout hruns rfl
  have hreach' := reaches_runs ⟨Function.update (start output).thread .stdout t,
    (start output).calls ++ first.map (.stdout, ·)⟩ .stderr hruns' rfl
  refine ⟨_, hreach.trans hreach', fun stream => ?_, ?_⟩
  · cases stream with
    | stdout => exact hdone
    | stderr => exact hdone'
  · show ([] ++ first.map (Stream.stdout, ·) ++ second.map (Stream.stderr, ·)).map _ = _
    rw [List.nil_append, List.map_append, List.map_map, List.map_map, ← hfirst, ← hsecond]
    rfl

/-- **What the logger is told of a successor's output**, in every order of the steps of the two
threads, and in whatever pieces the streams are read. Each of them comes to its end, and then the
logger was told every line in front of the first that is no text, once and in its order, unless it
panicked; the stream was read to its end exactly if every line was told. -/
theorem delivers {output : Stream → Bytes} {s : Threads} (h : Reaches (start output) s) :
    ((∀ stream, s.Done stream) ∨ ∃ s', Step s s') ∧ (∀ s', Step s s' → s'.work < s.work) ∧
      (∀ stream, s.Done stream → Delivered (output stream) (s.thread stream) (s.told stream)) ∧
      ∀ xs, (relay (output .stdout) (output .stderr)).Takes xs () →
        ∃ s, Reaches (start output) s ∧ (∀ stream, s.Done stream) ∧
          s.calls.map (·.2.exchange) = xs := by
  have hsound : s.Sound output := h.sound fun stream => Thread.stands_start (output stream)
  refine ⟨?_, fun s' hs => hs.work_lt, fun stream hdone => (hsound stream).delivered hdone,
    fun xs => reaches_relay⟩
  by_cases hdone : ∀ stream, s.Done stream
  · exact .inl hdone
  · obtain ⟨stream, hreading⟩ := Classical.not_forall.mp hdone
    obtain ⟨call, t, hstep⟩ := Thread.exists_step (Classical.not_not.mp hreading)
    exact .inr ⟨_, .step hstep⟩

/-- two streams, the last line of the one without its end -/
def chatter : Stream → Bytes
  | .stdout => [0x61, newline, 0x62]
  | .stderr => [0x63, newline]

theorem delivers_chatter : ∃ s, Reaches (start chatter) s ∧ (∀ stream, s.Done stream) ∧
    s.calls = [(.stdout, ⟨"a", true⟩), (.stderr, ⟨"c", true⟩), (.stdout, ⟨"b", true⟩)] ∧
    ∀ stream, Delivered (chatter stream) (s.thread stream) (s.told stream) := by
  have hfirst : Thread.Runs (.start [0x61, newline, 0x62]) [⟨"a", true⟩]
      ⟨[0x62], [], [], .reading⟩ :=
    .step (.read [0x61, newline] (by decide))
      (.step (.line [0x61] true (by decide)) (.refl _))
  have hsecond : Thread.Runs (.start [0x63, newline]) [⟨"c", true⟩] ⟨[], [], [], .ended⟩ :=
    .step (.read [0x63, newline] (by decide))
      (.step (.line [0x63] true (by decide)) (.step .close (.refl _)))
  have hthird : Thread.Runs ⟨[0x62], [], [], .reading⟩ [⟨"b", true⟩] ⟨[], [], [], .ended⟩ :=
    .step (.read [0x62] (by decide))
      (.step (.gather (by decide) (by decide)) (.step (.last true (by decide))
        (.step .close (.refl _))))
  have h := ((reaches_runs (start chatter) .stdout hfirst rfl).trans
    (reaches_runs _ .stderr hsecond rfl)).trans
    (reaches_runs _ .stdout hthird rfl)
  refine ⟨_, h, fun stream => ?_, rfl, fun stream => (delivers h).2.2.1 stream ?_⟩ <;>
    cases stream <;> decide

/-- a line that is no text, and a text behind it -/
def garbled : Stream → Bytes
  | .stdout => [0xff, newline, 0x6f, 0x6b, newline]
  | .stderr => []

/-- **Nobody is told of what stands behind a line that is no text**, and it need not be read. -/
theorem delivers_nothing_behind :
    lines (garbled .stdout) = [[0xff], [0x6f, 0x6b]] ∧
      (∀ s, Reaches (start garbled) s → s.Done .stdout → s.told .stdout = []) ∧
      ∃ s, Reaches (start garbled) s ∧ (∀ stream, s.Done stream) ∧
        (s.thread .stdout).unread = [0x6f, 0x6b, newline] := by
  refine ⟨by decide, fun s h hdone => ?_, ?_⟩
  · have hsound : s.Sound garbled := h.sound fun stream => Thread.stands_start (garbled stream)
    have hpumped := ((hsound .stdout).delivered hdone).pumped
    have htexts : texts (garbled .stdout) = [] := by decide
    rw [htexts] at hpumped
    exact List.map_eq_nil_iff.mp (Program.Takes.done_inv hpumped).1
  · have hfirst : Thread.Runs (.start [0xff, newline, 0x6f, 0x6b, newline]) []
        ⟨[0x6f, 0x6b, newline], [], [], .balked⟩ :=
      .step (.read [0xff, newline] (by decide))
        (.step (.line [0xff] true (by decide)) (.refl _))
    have hsecond : Thread.Runs (.start []) [] ⟨[], [], [], .ended⟩ := .step .close (.refl _)
    have h := (reaches_runs (start garbled) .stdout hfirst rfl).trans
      (reaches_runs _ .stderr hsecond rfl)
    refine ⟨_, h, fun stream => ?_, rfl⟩
    cases stream <;> decide

end Threads

end Succession.Relay
