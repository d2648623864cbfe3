import Succession.Proofs.Lifecycle.OneWay

/-!
# The token of a graceful end

Whoever accepts connections watches a token, which the graceful end cancels when it begins. So the
token tells at any time whether the process still runs.

* `Target.Cancels`   the graceful end cancels the token, and nothing else touches it;
* `Conducted.cancelled_iff`.
-/

namespace Succession

variable {σ : Type}

structure Target.Cancels (T : Target σ) (ok : σ → Prop) (cancelled : σ → Bool) : Prop where
  setState : ∀ state s, ok s → cancelled (T.setState state s) = cancelled s
  runHook : ∀ h signal s, ok s → cancelled (T.runHook h signal s) = cancelled s
  reload : ∀ s, ok s → cancelled (T.reload s).2 = cancelled s
  shutdown : ∀ s, ok s → cancelled (T.shutdown s).2 = true
  exit : ∀ code s, ok s → cancelled (T.exit code s) = cancelled s
  log : ∀ line s, ok s → cancelled (T.log line s) = cancelled s

/-- the token was cancelled by the first graceful end -/
def Traced.Told (cancelled : σ → Bool) (s : Traced σ) : Prop :=
  cancelled s.base = true ↔ s.courses ≠ []

variable {T : Target σ} {ok : σ → Prop} {cancelled : σ → Bool} {timeout : Duration} {h : History}

theorem Traced.Told.keep {s s' : Traced σ} {more : List Call} (hs : s.Told cancelled)
    (hsame : cancelled s'.base = cancelled s.base) (hcalls : s'.calls = s.calls ++ more)
    (hcourses : more.filterMap Call.course? = []) : s'.Told cancelled := by
  unfold Told at hs ⊢
  rw [hsame, courses_eq hcalls, hcourses, List.append_nil]
  exact hs

theorem Target.Cancels.traced (hT : T.Lawful ok) (hc : T.Cancels ok cancelled) :
    T.traced.Lawful fun s => ok s.base ∧ s.Told cancelled where
  calm s hs := hT.calm s.base hs.1
  setState state s hs := by
    obtain ⟨hok, hstate⟩ := hT.setState state s.base hs.1
    exact ⟨⟨hok, hs.2.keep (hc.setState state s.base hs.1) rfl rfl⟩, hstate⟩
  runHook h signal s hs := by
    obtain ⟨hok, hstate⟩ := hT.runHook h signal s.base hs.1
    exact ⟨⟨hok, hs.2.keep (hc.runHook h signal s.base hs.1) (List.append_nil _).symm rfl⟩, hstate⟩
  reload s hs := by
    obtain ⟨hok, hstate⟩ := hT.reload s.base hs.1
    exact ⟨⟨hok, hs.2.keep (hc.reload s.base hs.1) rfl rfl⟩, hstate⟩
  shutdown s hs := by
    obtain ⟨hok, hstate⟩ := hT.shutdown s.base hs.1
    have hcalls : (T.traced.shutdown s).2.calls =
        s.calls ++ [.shutdown (T.shutdown s.base).1] := rfl
    refine ⟨⟨hok, iff_of_true (hc.shutdown s.base hs.1) ?_⟩, hstate⟩
    rw [courses_eq hcalls]
    exact List.append_ne_nil_of_right_ne_nil _ (List.cons_ne_nil _ _)
  exit code s hs := by
    obtain ⟨hok, hstate⟩ := hT.exit code s.base hs.1
    exact ⟨⟨hok, hs.2.keep (hc.exit code s.base hs.1) rfl rfl⟩, hstate⟩
  log line s hs := by
    obtain ⟨hok, hstate⟩ := hT.log line s.base hs.1
    exact ⟨⟨hok, hs.2.keep (hc.log line s.base hs.1) (List.append_nil _).symm rfl⟩, hstate⟩

/-- **The token is cancelled exactly from the beginning of the graceful end on.** -/
theorem Conducted.cancelled_iff {s₀ : σ} {r : Conduct (Traced σ)} (hT : T.Lawful ok)
    (hc : T.Cancels ok cancelled) (hs : ok s₀) (hfresh : cancelled s₀ = false)
    (hstate : T.state s₀ = .init ∨ T.state s₀ = .running)
    (hr : Conducted T.traced timeout ⟨s₀, []⟩ h r) :
    cancelled r.target.base = true ↔
      T.state r.target.base = .shuttingDown ∨ T.state r.target.base = .terminate := by
  have htold : (⟨s₀, []⟩ : Traced σ).Told cancelled :=
    iff_of_false (by rw [hfresh]; exact nofun) (not_not_intro rfl)
  have hlife := (hr.lives (hc.traced hT) ⟨hs, htold⟩ hstate).life
  refine hlife.ok.2.trans ?_
  cases hlife.ending with
  | before hbefore hcourses _ _ _ =>
    refine iff_of_false (not_not_intro hcourses) ?_
    obtain hb | hb := hbefore <;> rw [hb] <;> decide
  | during entry course hcourses _ hphase =>
    refine iff_of_true ?_ ?_
    · rw [hcourses]
      exact List.cons_ne_nil _ _
    · generalize r.tasks.pending = pending at hphase
      generalize T.state r.target.base = state at hphase ⊢
      cases hphase <;> first | exact .inl rfl | exact .inr rfl

end Succession
