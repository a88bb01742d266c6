import Tentacle.Properties.Futures
import Tentacle.Properties.Spawns
import Tentacle.Properties.Tables

/-!
# runtime の `Session` と session の表は一対一に対応する

`session_open` は session を表に入れると同時にその `Session` を runtime に渡し、`Session` は
止まるときに自分の id の `SessionClose` を送って、それを読んだ巡で表から外される。
`Futures.lean` はここから「表の session にはどれも `Session` が走っている」を出した。
ここでは逆向きと重なりの無さも示し、session event の receiver が開いている間は、走っている
`Session` の id の列が表の id の列の並べ替えになることを言う。

逆向きには、`Session` が `session_open` の外から runtime に渡らないことが要る。runtime に
future を渡すもう一つの道は `future_task_sender` の buffer で、そこに積まれるのは
`dial_inner`・`listen_inner`・`ServiceTask::FutureTask` の future だけである。

1. `Spawns.lean` の `SpawnFree` を `Session` について使う。`session_open` のほかの操作は
   `Session` を積まず渡さないので、`queueOk_reachable` で buffer にはいつも `Session` が無い。
2. `SessionDelta` — 一回の処理で表から外れる id と、表に入る id（その処理が `Session` を
   渡した id）。`pollNext_delta` は一巡をこの形にまとめる。
3. `Matches` — 走っている `Session` が表の id をちょうど一つずつ持つこと。`World` の一歩で
   保たれ（`matches_next`）、receiver が開いている間はいつも成り立つ（`matches_reachable`）。
   quick な shutdown は表を空にするが `Session` は止めないので、閉じた後は成り立たない。
-/

namespace Tentacle

/-! ## `Session` の future -/

/-- future が `Session` なら、その id。 -/
def FutureTask.sessionId? : FutureTask → Option SessionId
  | .session id .. => some id
  | _ => none

/-- future が `Session` か。 -/
def FutureTask.isSession (t : FutureTask) : Bool := t.sessionId?.isSome

/-- runtime に `Session` を渡す effect なら、その id。 -/
def Effect.sessionSpawned? : Effect → Option SessionId
  | .spawn t => t.sessionId?
  | _ => none

/-- 一回の処理が runtime に渡した `Session` の id。 -/
def sessionSpawns (out : List Effect) : List SessionId := out.filterMap Effect.sessionSpawned?

@[simp] theorem sessionSpawns_nil : sessionSpawns [] = [] := rfl

@[simp]
theorem sessionSpawns_append (a b : List Effect) :
    sessionSpawns (a ++ b) = sessionSpawns a ++ sessionSpawns b :=
  List.filterMap_append _ _ _

theorem filterMap_spawned (out : List Effect) :
    (spawned out).filterMap FutureTask.sessionId? = sessionSpawns out := by
  simp only [spawned, sessionSpawns, List.filterMap_filterMap]
  congr 1
  funext e
  cases e <;> rfl

/-- future task の buffer に `Session` が無い。 -/
abbrev QueueOk (s : Service) : Prop := QueueFree FutureTask.isSession s

/-- `Session` を渡さない操作は、`sessionSpawns` に何も足さない。 -/
theorem SpawnFree.sessionSpawns_eq {op : Op} (h : SpawnFree FutureTask.isSession op) {s : Service}
    (hq : QueueOk s) : sessionSpawns (op s).2 = [] :=
  List.filterMap_eq_nil_iff.mpr fun e he => by
    have := h.spawns s hq e he
    cases e <;> simp_all [Effect.spawns, Effect.sessionSpawned?, FutureTask.isSession]

/-! ## 一回の処理での表と `Session` -/

/-- 一回の処理で session の表が `K` から `K'` になり、`out` を起こしたときの変わり方。表からは
`closed` な id だけが外れ、表に入るのは、この処理が `Session` を渡した id だけである。渡した
`Session` の id は重ならず、前の表に無い。 -/
structure SessionDelta (K K' : HashMap SessionId SessionController) (out : List Effect)
    (closed : SessionId → Prop) : Prop where
  nodup : (sessionSpawns out).Nodup
  fresh : ∀ id ∈ sessionSpawns out, id ∉ K
  mem : ∀ id, id ∈ K' ↔ (id ∈ K ∧ ¬ closed id) ∨ id ∈ sessionSpawns out

namespace SessionDelta

variable {K K' L L' : HashMap SessionId SessionController} {out out' : List Effect}
  {closed closed' : SessionId → Prop}

/-- `Session` を渡さない処理。 -/
theorem of_nil (hout : sessionSpawns out = []) (hmem : ∀ id, id ∈ K' ↔ id ∈ K ∧ ¬ closed id) :
    SessionDelta K K' out closed where
  nodup := hout ▸ List.nodup_nil
  fresh id h := by simp [hout] at h
  mem id := by simp [hout, hmem]

/-- 同じ id を持つ表、同じ `Session` を渡す effect、同じ `closed` に移す。 -/
theorem congr (h : SessionDelta K K' out closed) (hK : ∀ id, id ∈ L ↔ id ∈ K)
    (hK' : ∀ id, id ∈ L' ↔ id ∈ K') (hout : sessionSpawns out' = sessionSpawns out)
    (hc : ∀ id, closed' id ↔ closed id) : SessionDelta L L' out' closed' where
  nodup := hout ▸ h.nodup
  fresh id hid := by rw [hK]; exact h.fresh id (hout ▸ hid)
  mem id := by rw [hK', h.mem, hK, hc, hout]

end SessionDelta

/-- `session_open` は buffer に触れず、表に無い id で session を一つ開いてその `Session` を
渡すか、表を変えない。 -/
theorem sessionOpen_delta {cfg : Config} {h : Handle} {key : Option PublicKey} {a : Multiaddr}
    {ty : SessionType} {l : Option Multiaddr} {s s' : Service} {out : List Effect}
    (ho : sessionOpen cfg h key a ty l s = some (s', out)) :
    s'.futureTaskSender = s.futureTaskSender ∧ SessionDelta s.sessions s'.sessions out fun _ => False := by
  obtain ⟨s₀, rfl, ⟨hc, rfl⟩ | ⟨a', -, ho⟩⟩ := sessionOpen_stages ho
  · refine ⟨rfl, .of_nil (List.filterMap_eq_nil_iff.mpr fun e he => ?_) fun _ => by simp⟩
    rcases sessionOpenCheck_error hc e he with rfl | ⟨_, rfl⟩ <;> rfl
  · simp only [sessionOpenInsert, Option.map_eq_some', Prod.mk.injEq] at ho
    obtain ⟨s₁, hg, rfl, rfl⟩ := ho
    obtain ⟨hs₁, hfresh⟩ := generateNextSession_spec hg
    refine ⟨by unfold sessionHandlesOpen; split <;> rw [hs₁], ⟨List.nodup_singleton _,
      fun id hid => List.mem_singleton.mp hid ▸ hfresh, fun id => ?_⟩⟩
    rw [sessionHandlesOpen_sessions, AList.mem_insert, hs₁]
    exact or_comm.trans (or_congr (and_iff_left not_false).symm List.mem_singleton.symm)

/-- session event の処理は、`SessionClose` ならその id を表から外し、`HandshakeSuccess` なら
表に無い id で session を一つ開いてその `Session` を渡すことがある。ほかの event は表に触れず、
どの event も buffer に `Session` を積まない。 -/
theorem handleSessionEvent_delta {cfg : Config} {o : SendOracle} {e : SessionEvent}
    {s s' : Service} {out : List Effect} (he : handleSessionEvent cfg o e s = some (s', out))
    (hq : QueueOk s) :
    QueueOk s' ∧ SessionDelta s.sessions s'.sessions out fun id => e = .sessionClose id := by
  cases ht : e.touchesSessions with
  | false =>
    obtain ⟨op, hquiet, hop⟩ := handleSessionEvent_quiet cfg o ht
    obtain ⟨op', hfree, hop'⟩ := spawnFree_handleSessionEvent (p := FutureTask.isSession) cfg o ht
      fun _ => rfl
    obtain ⟨rfl, rfl⟩ := Prod.ext_iff.mp (Option.some.inj ((hop' s).symm.trans he))
    have h' : op s = op' s := Option.some.inj ((hop s).symm.trans (hop' s))
    refine ⟨hfree.queue s hq, .of_nil (hfree.sessionSpawns_eq hq) fun id => ?_⟩
    rw [← h', hquiet.mem_sessions]
    exact ⟨fun h => ⟨h, by rintro rfl; cases ht⟩, And.left⟩
  | true =>
    cases e with
    | sessionClose j =>
      simp only [handleSessionEvent, Option.some.injEq] at he
      obtain ⟨rfl, rfl⟩ := Prod.ext_iff.mp he
      refine ⟨(spawnFree_sessionClose o j .internal).queue s hq,
        .of_nil ((spawnFree_sessionClose o j .internal).sessionSpawns_eq hq) fun id => ?_⟩
      rw [← isSome_contexts, sessionClose_internal_contexts, ← isSome_contexts]
      by_cases h : id = j
      · subst h; simp
      · simp [h, Ne.symm h]
    | handshakeSuccess handle key address ty l =>
      obtain ⟨s₁, rfl, ⟨rfl, rfl⟩ | ⟨-, ho⟩⟩ := handleHandshakeSuccess_cases he
      · exact ⟨hq, .of_nil rfl fun _ => by simp⟩
      · obtain ⟨hf, hd⟩ := sessionOpen_delta ho
        refine ⟨fun t ht => hq t (by rwa [hf] at ht), hd.congr (fun _ => Iff.rfl) (fun _ => Iff.rfl) rfl
          fun _ => by simp⟩
    | _ => cases ht

theorem sessionPoll_delta {cfg : Config} {o : SendOracle} {ev : Option SessionEvent}
    {s s' : Service} {out : List Effect} {p : Bool} (hp : sessionPoll cfg o ev s = some (s', out, p))
    (hq : QueueOk s) :
    QueueOk s' ∧ SessionDelta s.sessions s'.sessions out
      fun id => p = false ∧ ev = some (.sessionClose id) := by
  unfold sessionPoll at hp
  split at hp
  · cases hp; exact ⟨hq, .of_nil rfl fun _ => by simp⟩
  split at hp
  · obtain ⟨_, he, ⟨⟩⟩ := Option.map_eq_some'.mp hp
    obtain ⟨hq', hd⟩ := handleSessionEvent_delta he hq
    exact ⟨hq', hd.congr (fun _ => Iff.rfl) (fun _ => Iff.rfl) rfl fun _ => by simp⟩
  · split at hp <;> cases hp
    exact ⟨hq, .of_nil rfl fun _ => by simp⟩

/-- user task の処理は buffer に `Session` を積まず、`Session` を渡さない。表を変えるのは
quick な shutdown だけで、その後は receiver が閉じている。 -/
theorem userTaskPoll_delta (cfg : Config) (o : SendOracle) (task : Option (Priority × ServiceTask))
    {s : Service} (hq : QueueOk s) :
    QueueOk (userTaskPoll cfg o task s).1 ∧ sessionSpawns (userTaskPoll cfg o task s).2.1 = [] ∧
      ((∀ id, id ∈ (userTaskPoll cfg o task s).1.sessions ↔ id ∈ s.sessions) ∨
        receiverClosed (userTaskPoll cfg o task s).1 = true) := by
  rcases userTaskPoll_cases cfg o task s with ⟨h₁, h₂⟩ | ⟨p, t, -, h₁, h₂⟩ <;> rw [h₁, h₂]
  · exact ⟨hq, rfl, .inl fun _ => Iff.rfl⟩
  have hfree := spawnFree_handleServiceTask (p := FutureTask.isSession) cfg o p
    (fun _ => rfl) (fun _ => rfl) (fun _ => rfl) t
  refine ⟨hfree.queue s hq, hfree.sessionSpawns_eq hq, ?_⟩
  by_cases ht : t = .shutdown true
  · subst ht
    exact .inr (drained_after_quickShutdown o o s).2.2.2.2.2
  · exact .inl ((quiet_handleServiceTask cfg o p ht).mem_sessions s)

/-- 一巡は buffer に `Session` を積まない。receiver が開いたままなら、一巡で表から外れるのは
読んで処理した `SessionClose` の id だけで、表に入るのはその巡で `Session` を渡した id だけである。 -/
theorem pollNext_delta {cfg : Config} {r : RoundInput} {s : Service} {res : RoundResult}
    (hp : pollNext cfg r s = some res) (hq : QueueOk s) :
    QueueOk res.service ∧ (res.service.sessionEventReceiverClosed = false →
      SessionDelta s.sessions res.service.sessions res.out
        fun id => res.sessionReady = true ∧ r.event = some (.sessionClose id)) := by
  unfold pollNext at hp
  split at hp
  · cases hp; exact ⟨hq, fun _ => .of_nil rfl fun _ => by simp⟩
  simp only [pollBody, Option.map_map, Option.map_eq_some'] at hp
  obtain ⟨b, hb, hres⟩ := hp
  -- 初回の初期化は表にも buffer にも触れない
  generalize hs₀ : (if s.futureTaskManager then
    initProtoHandles cfg { s with futureTaskManager := false } else s) = s₀ at hb hres
  have hinit : s₀.sessions = s.sessions ∧ s₀.futureTaskSender = s.futureTaskSender := by
    subst hs₀; split <;> exact ⟨rfl, rfl⟩
  -- flush と listen の更新は表を変えず、`Session` を渡さない
  have hpre := (spawnFree_flushBuffer (p := FutureTask.isSession) r.oracle).seq
    (spawnFree_tryUpdateListens r.oracle)
  have hq₀ : QueueOk s₀ := fun t ht => hq t (hinit.2 ▸ ht)
  have hqa := hpre.queue s₀ hq₀
  have hNa := hpre.sessionSpawns_eq hq₀
  have hK := ((quiet_flushBuffer r.oracle).seq (quiet_tryUpdateListens r.oracle)).mem_sessions s₀
  generalize Op.seq (flushBuffer r.oracle) (tryUpdateListens r.oracle) s₀ = a at hb hres hqa hNa hK
  obtain ⟨hqb, hdb⟩ := sessionPoll_delta hb hqa
  obtain ⟨hqc, hc, hKc⟩ := userTaskPoll_delta cfg r.oracle r.task hqb
  simp only [Function.comp_apply] at hres
  have hres' : res.service.futureTaskSender = (sendPendingTask r.oracle
        (userTaskPoll cfg r.oracle r.task b.1).1).1.futureTaskSender ∧
      res.service.sessions = (userTaskPoll cfg r.oracle r.task b.1).1.sessions ∧
      receiverClosed res.service = receiverClosed (userTaskPoll cfg r.oracle r.task b.1).1 ∧
      res.out = a.2 ++ b.2.1 ++ (userTaskPoll cfg r.oracle r.task b.1).2.1 ++
        (sendPendingTask r.oracle (userTaskPoll cfg r.oracle r.task b.1).1).2 ∧
      res.sessionReady = !b.2.2 := by
    split at hres <;> subst hres <;> exact ⟨rfl, rfl, rfl, rfl, rfl⟩
  refine ⟨fun t ht => (spawnFree_sendPendingTask r.oracle).queue _ hqc t (hres'.1 ▸ ht),
    fun hopen => hdb.congr (fun id => by rw [hK, hinit.1]) (fun id => ?_) ?_ fun id => ?_⟩
  · rw [hres'.2.1]
    exact hKc.resolve_right (by rw [← hres'.2.2.1]; simp [hopen]) id
  · rw [hres'.2.2.2.1]
    simp [hc, hNa, (spawnFree_sendPendingTask r.oracle).sessionSpawns_eq hqc]
  · rw [hres'.2.2.2.2]
    cases b.2.2 <;> simp

/-! ## buffer にはいつも `Session` が無い -/

theorem queueOk_step {cfg : Config} {i : Input} {s s' : Service} {out : List Effect}
    (hst : step cfg i s = some (s', out)) (hq : QueueOk s) : QueueOk s' := by
  cases i with
  | round r =>
    simp only [step, Option.map_eq_some'] at hst
    obtain ⟨res, hres, he⟩ := hst
    cases he
    exact (pollNext_delta hres hq).1
  | listen address result => cases hst; unfold listen; split <;> exact hq
  | dial address target result => cases hst; unfold dial; split <;> exact hq

/-- `future_task_sender` の buffer には、どの時点でも `Session` が無い。 -/
theorem queueOk_reachable {cfg : Config} {forever : Bool} {s : Service} {log : List Effect}
    (h : Reachable cfg forever s log) : QueueOk s := by
  induction h with
  | init => exact fun t ht => by simp [Service.new] at ht
  | step _ _ hst ih => exact queueOk_step hst ih

/-! ## receiver は閉じたら開かない -/

theorem receiverClosed_invariant (cfg : Config) :
    TableInvariant cfg fun t _ => t.receiverClosed = true where
  calm h _ := h
  drain quick s _ h := by simp only [shutdownDrain]; split <;> first | rfl | exact h
  listenStarted _ _ _ h := h
  listenClose _ _ _ _ h := h
  init h _ := h

/-- `World` の一歩の後で receiver が開いていれば、前も開いていた。 -/
theorem receiverOpen_of_next {cfg : Config} {w w' : World} {i : WorldInput}
    (hn : w.next cfg i = some w') (h : w'.service.sessionEventReceiverClosed = false) :
    w.service.sessionEventReceiverClosed = false := by
  rcases World.next_service hn with ⟨hs, -⟩ | ⟨j, out, hj, -⟩
  · rwa [hs] at h
  · refine Bool.eq_false_iff.mpr fun hc => ?_
    have := @TableInvariant.preserves_step cfg _ (receiverClosed_invariant cfg) j _ _ [] out hj hc
    simp only [Service.tables] at this
    rw [this] at h
    cases h

/-! ## 走っている `Session` と表 -/

/-- `i` 番目の要素を外した列は、それを頭に戻すと元の列の並べ替えになる。 -/
theorem perm_cons_eraseIdx {α : Type} : ∀ {l : List α} {i : Nat} {t : α}, l[i]? = some t →
    l.Perm (t :: l.eraseIdx i)
  | [], _, _, h => by simp at h
  | _ :: _, 0, _, h => by simp at h; subst h; exact .refl _
  | x :: _, i + 1, _, h => ((perm_cons_eraseIdx (i := i) (by simpa using h)).cons x).trans (.swap _ _ _)

/-- future が一歩進んで残す `Session` は、自分の id の `SessionClose` を送って止まった
`Session` の分だけ減る。 -/
theorem react_sessionIds {t : FutureTask} {o : Outcome} {ev : Option SessionEvent}
    {ts : List FutureTask} (h : react t o = some (ev, ts)) (id : SessionId) :
    (ts.filterMap FutureTask.sessionId?).count id + (if ev = some (.sessionClose id) then 1 else 0) =
      if t.sessionId? = some id then 1 else 0 := by
  cases t <;> cases o <;> simp only [react, reduceCtorEq, Option.some.injEq, Prod.mk.injEq] at h
  case session.report j _ _ _ e =>
    split at h <;> cases h
    have hne : e ≠ .sessionClose id := by rintro rfl; simp [SessionEvent.reportedBy] at *
    simp [FutureTask.sessionId?, hne, List.count_singleton']
  all_goals obtain ⟨rfl, rfl⟩ := h; simp [FutureTask.sessionId?, eq_comm]

/-- `i` 番目の future が一歩進んだ後の `Session` の id は、それが自分の id の `SessionClose` を
送って止まった分だけ減る。 -/
theorem count_eraseIdx_react {l : List FutureTask} {i : Nat} {t : FutureTask} {o : Outcome}
    {ev : Option SessionEvent} {ts : List FutureTask} (ht : l[i]? = some t)
    (hr : react t o = some (ev, ts)) (id : SessionId) :
    ((l.eraseIdx i ++ ts).filterMap FutureTask.sessionId?).count id +
      (if ev = some (.sessionClose id) then 1 else 0) = (l.filterMap FutureTask.sessionId?).count id := by
  rw [((perm_cons_eraseIdx ht).filterMap _).count_eq, List.filterMap_append, List.count_append,
    add_assoc, react_sessionIds hr id]
  cases hs : t.sessionId? <;> simp [List.filterMap_cons, hs, List.count_cons]

/-- 走っている `Session` の id の列 `L` が、表 `K` の id をちょうど一つずつ持つ。 -/
def Matches (K : HashMap SessionId SessionController) (L : List SessionId) : Prop :=
  ∀ id, L.count id = if id ∈ K then 1 else 0

/-- 表の変わり方が `SessionDelta` なら、止まった `Session` を除き、渡した `Session` を足した
列は、新しい表とまた対応する。 -/
theorem Matches.delta {K K' : HashMap SessionId SessionController} {L₀ L₁ : List SessionId}
    {out : List Effect} {closed : SessionId → Prop} (hE : Matches K L₀)
    (hd : SessionDelta K K' out closed) (h₁ : ∀ id, closed id → L₁.count id + 1 = L₀.count id)
    (h₂ : ∀ id, ¬ closed id → L₁.count id = L₀.count id) : Matches K' (L₁ ++ sessionSpawns out) := by
  intro id
  have hK := hE id
  rw [List.count_append, List.count_eq_of_nodup hd.nodup]
  by_cases hc : closed id
  · have h := h₁ id hc
    have hin : id ∈ K := by by_contra hn; rw [if_neg hn] at hK; omega
    have hn : id ∉ sessionSpawns out := fun h => hd.fresh id h hin
    simp only [hd.mem, hc, hn, hin, if_true, if_false, not_true_eq_false, and_false, or_false] at hK ⊢
    omega
  · have h := h₂ id hc
    by_cases hn : id ∈ sessionSpawns out
    · simp only [hd.mem, hn, hd.fresh id hn, if_true, if_false, or_true] at hK ⊢
      omega
    · simp only [hd.mem, hc, hn, not_false_eq_true, and_true, or_false, if_false] at hK ⊢
      omega

/-- `World` の一歩の後も、receiver が開いていれば、走っている `Session` は表と対応する。 -/
theorem matches_next {cfg : Config} {w w' : World} {i : WorldInput} (hq : QueueOk w.service)
    (hE : Matches w.service.sessions (w.tasks.filterMap FutureTask.sessionId?))
    (hn : w.next cfg i = some w') (hopen : w'.service.sessionEventReceiverClosed = false) :
    Matches w'.service.sessions (w'.tasks.filterMap FutureTask.sessionId?) := by
  -- service の一歩の結果を書き込んだ `World`
  have apply {tasks : List FutureTask} {s' : Service} {out : List Effect} {closed : SessionId → Prop}
      (hd : SessionDelta w.service.sessions s'.sessions out closed)
      (h₁ : ∀ id, closed id → (tasks.filterMap FutureTask.sessionId?).count id + 1 =
        (w.tasks.filterMap FutureTask.sessionId?).count id)
      (h₂ : ∀ id, ¬ closed id → (tasks.filterMap FutureTask.sessionId?).count id =
        (w.tasks.filterMap FutureTask.sessionId?).count id) :
      Matches s'.sessions ((w.apply tasks s' out).tasks.filterMap FutureTask.sessionId?) := by
    simp only [World.apply, List.filterMap_append, filterMap_spawned]
    exact hE.delta hd h₁ h₂
  cases i with
  | background i outcome =>
    simp only [World.next, Option.bind_eq_bind, Option.bind_eq_some] at hn
    obtain ⟨t, ht, hn⟩ := hn
    split at hn <;> cases hn
    rename_i ts hr
    intro id
    have := count_eraseIdx_react ht hr id
    rw [if_neg nofun, add_zero] at this
    rw [this]
    exact hE id
  | round sender task oracle =>
    rcases sender with _ | ⟨i, outcome⟩
    · simp only [World.next, Option.map_eq_some'] at hn
      obtain ⟨r, hr, rfl⟩ := hn
      exact apply ((pollNext_delta hr hq).2 hopen) (fun _ h => nomatch h.2) fun _ _ => rfl
    · simp only [World.next, Option.bind_eq_bind, Option.bind_eq_some] at hn
      obtain ⟨t, ht, hn⟩ := hn
      split at hn
      · rename_i e ts hreact
        obtain ⟨r, hr, hn⟩ := Option.bind_eq_some.mp hn
        split at hn <;> cases hn
        rename_i hready
        refine apply ((pollNext_delta hr hq).2 hopen) (fun id hc => ?_) fun id hc => ?_
        · have := count_eraseIdx_react ht hreact id
          rwa [if_pos hc.2] at this
        · have := count_eraseIdx_react ht hreact id
          rwa [if_neg fun h => hc ⟨hready, h⟩, add_zero] at this
      · cases hn
  | listen address result =>
    simp only [World.next, Option.some.injEq] at hn
    subst hn
    exact apply (.of_nil (by unfold listen; split <;> rfl) fun id =>
        ((quiet_listen cfg address result).mem_sessions w.service id).trans
          (and_iff_left not_false).symm : SessionDelta _ _ _ fun _ => False)
      (fun _ h => h.elim) fun _ _ => rfl
  | dial address target result =>
    simp only [World.next, Option.some.injEq] at hn
    subst hn
    exact apply (.of_nil (by unfold dial; split <;> rfl) fun id =>
        ((quiet_dial cfg address target result).mem_sessions w.service id).trans
          (and_iff_left not_false).symm : SessionDelta _ _ _ fun _ => False)
      (fun _ h => h.elim) fun _ _ => rfl

/-- receiver が開いている間は、走っている `Session` が表の id をちょうど一つずつ持つ。 -/
theorem matches_reachable {cfg : Config} {forever : Bool} {w : World}
    (h : WorldReachable cfg forever w) (hopen : w.service.sessionEventReceiverClosed = false) :
    Matches w.service.sessions (w.tasks.filterMap FutureTask.sessionId?) := by
  induction h with
  | init => intro id; simp [Service.new]
  | step _ hw hn ih =>
    exact matches_next (queueOk_reachable hw.reachable) (ih (receiverOpen_of_next hn hopen)) hn hopen

/-- session event の receiver が開いている間は、runtime で走っている `Session` の id の列は、
表の id の列の並べ替えである。表の session にはそれぞれちょうど一つの `Session` が走り、
表に無い id の `Session` は走っていない。`World` は future の最後の送信と、それを読む巡を
一歩にまとめるので、走っている `Session` には、止まって `SessionClose` をまだ読まれていないもの
も入る。 -/
theorem sessionFutures_perm {cfg : Config} {forever : Bool} {w : World}
    (h : WorldReachable cfg forever w) (hopen : w.service.sessionEventReceiverClosed = false) :
    (w.tasks.filterMap FutureTask.sessionId?).Perm w.service.sessions.keys := by
  refine List.perm_iff_count.mpr fun id => ?_
  rw [matches_reachable h hopen id, List.count_eq_of_nodup w.service.sessions.keys_nodup]
  simp [AList.mem_keys]

/-- 例の run で開いた session には、ちょうど一つの `Session` が走っている。 -/
theorem sessionFutures_demo :
    demoWorld.service.sessionEventReceiverClosed = false ∧ demoWorld.service.sessions.len = 1 ∧
      (demoWorld.tasks.filterMap FutureTask.sessionId?).Perm demoWorld.service.sessions.keys :=
  ⟨rfl, by decide, sessionFutures_perm demoWorld_reachable rfl⟩

end Tentacle
