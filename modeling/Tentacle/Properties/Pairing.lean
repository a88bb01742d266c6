import Tentacle.Properties.Step
import Tentacle.World

/-!
# SessionOpen と SessionClose の対応

handle に渡った `SessionOpen` と `SessionClose` を順にたどると、開いていて閉じていない
session の表ができる（`openSessions`）。たどれないのは、開いている id に `SessionOpen` が
来るか、開いていない session に `SessionClose` が来るときである。

`sessionEvents_paired` は、どの run でもこの表が最後までたどれて `sessions` の context と
一致し、終了の判定が通る状態では空であることを言う。
-/

namespace Tentacle

/-- 一つの effect で表を進める。開いている id の `SessionOpen` と、開いている session の
context でない `SessionClose` では `none`。 -/
def openSessionsStep (m : HashMap SessionId SessionContext) :
    Effect → Option (HashMap SessionId SessionContext)
  | .event (.sessionOpen c) => if c.id ∈ m then none else some (m.insert c.id c)
  | .event (.sessionClose c) => if m.lookup c.id = some c then some (m.erase c.id) else none
  | _ => some m

/-- handle に渡った `SessionOpen` と `SessionClose` を順にたどり、開いていて閉じていない
session の表を作る。対にならない event に出会えば `none`。 -/
def openSessions (m : HashMap SessionId SessionContext) (l : List Effect) :
    Option (HashMap SessionId SessionContext) :=
  l.foldlM openSessionsStep m

theorem openSessions_append (m : HashMap SessionId SessionContext) (l₁ l₂ : List Effect) :
    openSessions m (l₁ ++ l₂) = (openSessions m l₁).bind (openSessions · l₂) :=
  List.foldlM_append ..

/-- session を開け閉めしない effect は表を変えない。 -/
theorem openSessions_quiet {l : List Effect} (h : ∀ e ∈ l, e.opensOrCloses = false)
    (m : HashMap SessionId SessionContext) : openSessions m l = some m := by
  induction l with
  | nil => rfl
  | cons e l ih =>
    have he : openSessionsStep m e = some m := by
      have := h e (by simp)
      unfold openSessionsStep
      split <;> first | rfl | cases this
    simp only [openSessions, List.foldlM_cons, he, Option.bind_eq_bind, Option.some_bind] at ih ⊢
    exact ih fun e' he' => h e' (by simp [he'])

/-- 開いていて閉じていない session が、ちょうど `sessions` にある session である。 -/
structure Paired (s : Service) (log : List Effect) : Prop where
  /-- どの session も、自分の context の id の下にある。 -/
  ownId : ∀ id c, s.contexts id = some c → c.id = id
  replay : ∃ m, openSessions ∅ log = some m ∧ ∀ id, m.lookup id = s.contexts id

theorem paired_stepInvariant (cfg : Config) : StepInvariant cfg Paired where
  quiet {s s' log out} h hc _ he := by
    obtain ⟨m, hm, hlook⟩ := h.replay
    refine ⟨hc ▸ h.ownId, m, ?_, hc ▸ hlook⟩
    rw [openSessions_append, hm, Option.some_bind, openSessions_quiet he]
  close o id s log h := by
    obtain ⟨m, hm, hlook⟩ := h.replay
    refine ⟨fun j c hj => ?_, ?_⟩
    · rw [sessionClose_internal_contexts] at hj
      split at hj
      · cases hj
      · exact h.ownId j c hj
    · simp only [sessionClose_internal_contexts, sessionClose_internal_out, openSessions_append, hm,
        Option.some_bind]
      cases hid : s.contexts id with
      | none =>
        refine ⟨m, rfl, fun j => ?_⟩
        split
        · subst j; rw [hlook, hid]
        · exact hlook j
      | some c =>
        have hcid := h.ownId id c hid
        refine ⟨m.erase id, ?_, fun j => ?_⟩
        · simp [openSessions, openSessionsStep, hcid, hlook, hid]
        · split
          · subst j; simp
          · rename_i hj; rw [AList.lookup_erase_ne hj, hlook]
  opened {s s' log out key ctx} h ho := by
    obtain ⟨m, hm, hlook⟩ := h.replay
    obtain ⟨t, rfl⟩ := ho.effects
    refine ⟨fun j c hj => ?_, m.insert ctx.id ctx, ?_, fun j => ?_⟩
    · rw [ho.contexts] at hj
      split at hj
      · cases hj; rename_i hj; exact hj.symm
      · exact h.ownId j c hj
    · have : ctx.id ∉ m := by rw [← AList.lookup_eq_none, hlook, ho.fresh]
      rw [openSessions_append, hm, Option.some_bind]
      simp [openSessions, openSessionsStep, this]
    · rw [ho.contexts]
      split
      · subst j; simp
      · rename_i hj; rw [AList.lookup_insert_ne hj, hlook]

/-- 終了の判定が通る状態には session が無い。 -/
theorem contexts_of_terminationCondition {s : Service} (h : terminationCondition s = true)
    (id : SessionId) : s.contexts id = none := by
  simp only [terminationCondition, Bool.and_eq_true, beq_iff_eq] at h
  have hlen : s.sessions.entries = [] := List.eq_nil_of_length_eq_zero h.1.2
  simp [Service.contexts, AList.lookup, hlen]

/-- どの run でも、handle に渡った `SessionOpen` と `SessionClose` は対になる。
`SessionClose` はそれより前に `SessionOpen` を受けてまだ閉じていない session の context を運び、
二度閉じる session は無い。各時点で、開いていて閉じていない session はちょうど `sessions` に
あって、自分の context の id の下にある。終了の判定が通る状態では、開いた session はどれも
ちょうど一度 `SessionClose` を受けている。 -/
theorem sessionEvents_paired {cfg : Config} {forever : Bool} {s : Service} {log : List Effect}
    (h : Reachable cfg forever s log) :
    (∀ id c, s.contexts id = some c → c.id = id) ∧
    (∃ m, openSessions ∅ log = some m ∧ ∀ id, m.lookup id = s.contexts id) ∧
    (terminationCondition s = true → openSessions ∅ log = some ∅) := by
  have hp : Paired s log := (paired_stepInvariant cfg).reachable
    ⟨fun _ _ h => by simp [Service.contexts, Service.new] at h, ∅, rfl,
      fun _ => by simp [Service.contexts, Service.new]⟩ h
  refine ⟨hp.ownId, hp.replay, fun ht => ?_⟩
  obtain ⟨m, hm, hlook⟩ := hp.replay
  rw [hm, AList.eq_empty_of_lookup fun id => (hlook id).trans (contexts_of_terminationCondition ht id)]

/-- 例の run の後、session の future が閉じて、その `SessionClose` を読んだ巡の後。handle に
`SessionOpen` と `SessionClose` が一つずつ渡り、表は空に戻っている。 -/
theorem sessionEvents_paired_demo :
    ∃ w, WorldReachable demoConfig false w ∧ w.service.sessions.len = 0 ∧
      w.log.countP Effect.opensOrCloses = 2 ∧
      ((∀ id c, w.service.contexts id = some c → c.id = id) ∧
        (∃ m, openSessions ∅ w.log = some m ∧ ∀ id, m.lookup id = w.service.contexts id) ∧
        (terminationCondition w.service = true → openSessions ∅ w.log = some ∅)) := by
  obtain ⟨w, hw, hp⟩ := WorldReachable.exists_of_run demoConfig false
    (demoTrace ++ [.round (some (1, .close)) none .ok])
    (fun w => w.service.sessions.len == 0 && w.log.countP Effect.opensOrCloses == 2) (by decide)
  simp only [Bool.and_eq_true, beq_iff_eq] at hp
  exact ⟨w, hw, hp.1, hp.2, sessionEvents_paired hw.reachable⟩

end Tentacle
