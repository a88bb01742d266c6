import Tentacle.Properties.Step
import Tentacle.World

/-!
# quick shutdown の後

`Shutdown(true)` を処理すると、`listens` と `sessions` と future task の buffer が空になり、
state は shutdown になる。その巡の `send_pending_task` は何も足さないので、尻の終了判定が
通る（`drained_after_quickShutdown`）。終了判定が通った状態では、以後のどの巡も頭の
終了判定で止まり、状態も変えない（`pollNext_head`）。

session event の receiver を閉じるのは quick shutdown だけなので（`Keeps` の節）、閉じた
receiver を `session_poll` が読むことは無い。ただし公開の `listen` と `dial` は状態を
見ないので、stream が終わった後に呼べば `listens` が増えうる。そこで run は、それらを
stream が終わる前にだけ呼ぶもの（`LiveReachable`）とする。
-/

namespace Tentacle

/-! ## 変わらない部分 -/

/-- `op` が `f` で見える部分を変えない。 -/
def Keeps {α : Type} (f : Service → α) (op : Op) : Prop := ∀ s, f (op s).1 = f s

namespace Keeps

variable {α : Type} {f : Service → α}

theorem seq {g h : Op} (hg : Keeps f g) (hh : Keeps f h) : Keeps f (Op.seq g h) :=
  fun s => (hh _).trans (hg s)

theorem forEach {β : Type} {g : β → Op} (hg : ∀ x, Keeps f (g x)) :
    ∀ xs, Keeps f (Op.forEach xs g)
  | [] => fun _ => rfl
  | x :: xs => Op.forEach_cons x xs g ▸ seq (hg x) (forEach hg xs)

end Keeps

/-- 内からの `session_close` は、`sessions` と handler の buffer の他は変えない。 -/
theorem keeps_sessionClose_internal {α : Type} (f : Service → α)
    (hf : ∀ s m h, f { s with sessions := m, sessionProtoHandles := h } = f s) (o : SendOracle)
    (id : SessionId) : Keeps f (sessionClose o id .internal) := fun s => by
  simp only [sessionClose]
  split
  · exact hf _ _ _
  · exact hf s s.sessions _

theorem contexts_forEach_sessionClose_internal (o : SendOracle) :
    ∀ (ids : List SessionId) (s : Service) (j : SessionId),
      (Op.forEach ids (fun i => sessionClose o i .internal) s).1.contexts j =
        if j ∈ ids then none else s.contexts j
  | [], s, j => by simp
  | i :: ids, s, j => by
    simp only [Op.forEach_cons, Op.seq_fst, contexts_forEach_sessionClose_internal o ids,
      sessionClose_internal_contexts, List.mem_cons]
    by_cases hj : j = i <;> simp [hj]

/-! ## session event の receiver -/

section Receiver

/-- session event の receiver が閉じているか。 -/
abbrev receiverClosed (s : Service) : Bool := s.sessionEventReceiverClosed

variable (o : SendOracle)

theorem keeps_distributeToSession : Keeps receiverClosed (distributeToSession o) := fun s => by
  unfold distributeToSession; split <;> rfl

theorem keeps_pushToSession (id : SessionId) (e : SessionEvent) :
    Keeps receiverClosed (pushToSession o id e) := fun s => by
  unfold pushToSession
  split
  · exact keeps_distributeToSession o _
  · rfl

theorem keeps_sessionClose (id : SessionId) : ∀ src, Keeps receiverClosed (sessionClose o id src)
  | .external => keeps_pushToSession o id _
  | .internal => keeps_sessionClose_internal receiverClosed (fun _ _ _ => rfl) o id

theorem keeps_handleShutdown_graceful : Keeps receiverClosed (handleShutdown o false) :=
  Keeps.seq (fun _ => rfl) fun s => Keeps.forEach (fun i => keeps_sessionClose o i _) _ s

theorem keeps_distributeToUserLevel : Keeps receiverClosed (distributeToUserLevel o) := fun s => by
  unfold distributeToUserLevel
  split
  · rfl
  split
  · exact Keeps.seq (fun _ => rfl) (keeps_handleShutdown_graceful o) s
  · rfl

theorem keeps_tryUpdateListens : Keeps receiverClosed (tryUpdateListens o) := fun s => by
  unfold tryUpdateListens
  split
  · rfl
  · exact keeps_distributeToUserLevel o _

theorem keeps_flushBuffer : Keeps receiverClosed (flushBuffer o) :=
  Keeps.seq
    (fun s => by split; rfl; exact keeps_distributeToSession o s)
    (fun s => by split; rfl; exact keeps_distributeToUserLevel o s)

theorem keeps_pushServiceProto (p : ProtocolId) (e : ServiceProtocolEvent) :
    Keeps receiverClosed (pushServiceProto o p e) := fun s => by
  unfold pushServiceProto
  split
  · exact keeps_distributeToUserLevel o _
  · rfl

theorem keeps_pushSessionProto (k : SessionId × ProtocolId) (e : SessionProtocolEvent) :
    Keeps receiverClosed (pushSessionProto o k e) := fun s => by
  unfold pushSessionProto
  split
  · exact keeps_distributeToUserLevel o _
  · rfl

theorem keeps_protocolOpen (cfg : Config) (id : SessionId) (p : ProtocolId) (v : String) :
    ∀ src, Keeps receiverClosed (protocolOpen cfg o id p v src)
  | .external => keeps_pushToSession o id _
  | .internal => fun _ => rfl

theorem keeps_protocolClose (cfg : Config) (id : SessionId) (p : ProtocolId) :
    ∀ src, Keeps receiverClosed (protocolClose cfg o id p src)
  | .external => keeps_pushToSession o id _
  | .internal => fun _ => rfl

/-- `Shutdown(true)` の他の user task は receiver を閉じない。 -/
theorem keeps_handleServiceTask (cfg : Config) (p : Priority) {t : ServiceTask}
    (ht : t ≠ .shutdown true) : Keeps receiverClosed (handleServiceTask cfg o p t) := by
  cases t with
  | protocolMessage target protoId data => exact fun s => keeps_distributeToSession o _
  | dial address target =>
    intro s
    simp only [handleServiceTask, handleDial, dialInner]
    split <;> (try split) <;> rfl
  | listen address =>
    intro s
    simp only [handleServiceTask, handleListen, listenInner]
    split <;> (try split) <;> rfl
  | disconnect id => exact keeps_sessionClose o id _
  | futureTask task => exact fun _ => rfl
  | setProtocolNotify => exact keeps_pushServiceProto o _ _
  | removeProtocolNotify => exact keeps_pushServiceProto o _ _
  | setProtocolSessionNotify => exact keeps_pushSessionProto o _ _
  | removeProtocolSessionNotify => exact keeps_pushSessionProto o _ _
  | protocolOpen id target =>
    cases target with
    | all => exact Keeps.forEach (fun _ => keeps_protocolOpen o cfg _ _ _ _) _
    | single p => exact keeps_protocolOpen o cfg _ _ _ _
    | multi ids => exact Keeps.forEach (fun _ => keeps_protocolOpen o cfg _ _ _ _) _
  | protocolClose id p => exact keeps_protocolClose o cfg _ _ _
  | shutdown quick =>
    cases quick
    · exact keeps_handleShutdown_graceful o
    · exact absurd rfl ht

theorem sessionOpen_receiverClosed {cfg : Config} {h : Handle} {key : Option PublicKey}
    {a : Multiaddr} {ty : SessionType} {l : Option Multiaddr} {s s' : Service}
    {out : List Effect} (ho : sessionOpen cfg h key a ty l s = some (s', out)) :
    receiverClosed s' = receiverClosed s := by
  obtain ⟨s₀, rfl, ⟨-, rfl⟩ | ⟨a', -, ho⟩⟩ := sessionOpen_stages ho
  · rfl
  simp only [sessionOpenInsert, Option.map_eq_some', Prod.mk.injEq] at ho
  obtain ⟨s₁, hg, rfl, -⟩ := ho
  rw [(generateNextSession_spec hg).1]
  unfold sessionHandlesOpen
  split <;> rfl

theorem listen_receiverClosed (cfg : Config) (a : Multiaddr) (r : Except String Multiaddr)
    (s : Service) : receiverClosed (listen cfg a r s).1 = receiverClosed s := by
  unfold listen; split <;> rfl

theorem dial_receiverClosed (cfg : Config) (a : Multiaddr) (t : TargetProtocol)
    (r : Except String (Multiaddr × Handle)) (s : Service) :
    receiverClosed (dial cfg a t r s).1 = receiverClosed s := by
  unfold dial; split <;> rfl

/-- session event の処理は receiver を閉じない。 -/
theorem handleSessionEvent_receiverClosed {cfg : Config} {e : SessionEvent} {s s' : Service}
    {out : List Effect} (he : handleSessionEvent cfg o e s = some (s', out)) :
    receiverClosed s' = receiverClosed s := by
  cases e <;> simp only [handleSessionEvent, Option.some.injEq, Prod.ext_iff] at he
  case handshakeSuccess =>
    obtain ⟨s₁, rfl, ⟨rfl, -⟩ | ⟨-, ho⟩⟩ := handleHandshakeSuccess_cases he
    · rfl
    · exact (sessionOpen_receiverClosed ho).trans rfl
  case handshakeError =>
    split at he <;> (simp only [Option.some.injEq, Prod.ext_iff] at he; obtain ⟨rfl, -⟩ := he; rfl)
  all_goals obtain ⟨rfl, -⟩ := he
  case sessionClose => exact keeps_sessionClose o _ _ s
  case protocolOpen => exact keeps_protocolOpen o cfg _ _ _ _ s
  case protocolClose => exact keeps_protocolClose o cfg _ _ _ s
  case listenError => unfold handleListenError; split <;> rfl
  case listenStart => exact keeps_tryUpdateListens o _
  case protocolHandleError => exact keeps_handleShutdown_graceful o s
  all_goals rfl

end Receiver

/-! ## quick shutdown の巡 -/

/-- quick shutdown の後で future task を送ると、終了判定が通る状態になる。 -/
theorem drained_after_quickShutdown (o o' : SendOracle) (s : Service) :
    let t := (sendPendingTask o' (handleShutdown o true s).1).1
    terminationCondition t = true ∧ t.listens = ∅ ∧ t.sessions = ∅ ∧
      t.futureTaskSender.isEmpty = true ∧ t.state.isShutdown = true ∧ receiverClosed t = true := by
  intro t
  set d := (shutdownDrain true s).1
  have hframe : ∀ {α : Type} (f : Service → α),
      (∀ s m h, f { s with sessions := m, sessionProtoHandles := h } = f s) →
      f (handleShutdown o true s).1 = f d := fun f hf =>
    Keeps.forEach (fun i => keeps_sessionClose_internal f hf o i) _ d
  have hsessions : t.sessions = ∅ := by
    refine AList.eq_empty_of_lookup fun j => ?_
    have hj : t.contexts j = none := by
      refine (contexts_forEach_sessionClose_internal o d.sessions.keys d j).trans ?_
      split
      · rfl
      · simpa [Service.contexts, AList.lookup_eq_none, AList.mem_keys]
    simpa [Service.contexts] using hj
  have hlistens : t.listens = ∅ := hframe Service.listens fun _ _ _ => rfl
  have hsender : (handleShutdown o true s).1.futureTaskSender = Buffer.new :=
    hframe Service.futureTaskSender fun _ _ _ => rfl
  have hstate : t.state = s.state.preShutdown := hframe Service.state fun _ _ _ => rfl
  have hsent : t.futureTaskSender = Buffer.new := by
    simp only [t, sendPendingTask, hsender, Buffer.trySend_new]
  refine ⟨?_, hlistens, hsessions, by simp [hsent, Buffer.isEmpty], by simp [hstate],
    hframe receiverClosed fun _ _ _ => rfl⟩
  simp [terminationCondition, hlistens, hsessions, hsent, hstate, Buffer.isEmpty]

/-- 終了判定が通る状態では、頭の判定で止まり、shutdown flag を立てるだけである。 -/
theorem pollNext_head {cfg : Config} {r : RoundInput} {s : Service}
    (h : terminationCondition s = true) :
    pollNext cfg r s = some ⟨{ s with shutdown := true }, [], .headTerminated, false⟩ := by
  simp [pollNext, h]

/-- 一巡で user task の `Shutdown(true)` を読めば、その巡の終わりの状態は終了判定が通る。 -/
theorem pollBody_quickShutdown {cfg : Config} {ev : Option SessionEvent} {p : Priority}
    {o : SendOracle} {s s' : Service} {out : List Effect} {sp : Bool}
    (hb : pollBody cfg ⟨ev, some (p, .shutdown true), o⟩ s = some (s', out, sp, false)) :
    ∃ b, s' = (sendPendingTask o (handleShutdown o true b).1).1 := by
  simp only [pollBody, Option.map_eq_some'] at hb
  obtain ⟨b, -, hb⟩ := hb
  simp only [userTaskPoll] at hb
  split at hb
  · simp at hb
  · simp only [Prod.mk.injEq] at hb
    exact ⟨b.1, hb.1.symm⟩

/-! ## run -/

/-- 公開の `listen` と `dial` を、stream が終わる前（共有の shutdown flag が立つ前）にだけ
呼ぶ run。終わった stream の `poll_next` を続けて呼ぶことは許す。 -/
inductive LiveReachable (cfg : Config) (forever : Bool) : Service → List Effect → Prop where
  | init : LiveReachable cfg forever (Service.new forever) []
  | round {s : Service} {log : List Effect} {res : RoundResult} (r : RoundInput) :
      LiveReachable cfg forever s log → pollNext cfg r s = some res →
      LiveReachable cfg forever res.service (log ++ res.out)
  | call {s s' : Service} {log out : List Effect} (i : Input) :
      LiveReachable cfg forever s log → s.shutdown = false → step cfg i s = some (s', out) →
      LiveReachable cfg forever s' (log ++ out)

theorem LiveReachable.reachable {cfg : Config} {forever : Bool} {s : Service} {log : List Effect}
    (h : LiveReachable cfg forever s log) : Reachable cfg forever s log := by
  induction h with
  | init => exact .init
  | round r _ hr ih => exact .step (.round r) ih (by simp [step, hr])
  | call i _ _ hs ih => exact .step i ih hs

/-- receiver が閉じているのは、終了判定が通って stream が終わった後だけ。 -/
def ClosedOnlyAtEnd (s : Service) : Prop :=
  receiverClosed s = true → terminationCondition s = true ∧ s.shutdown = true

/-- 一巡の初期化と flush と listen の更新は receiver を変えない。 -/
theorem receiverClosed_pollPrefix (cfg : Config) (o : SendOracle) (s : Service) :
    receiverClosed (Op.seq (flushBuffer o) (tryUpdateListens o)
      (if s.futureTaskManager then initProtoHandles cfg { s with futureTaskManager := false }
        else s)).1 = receiverClosed s :=
  (Keeps.seq (keeps_flushBuffer o) (keeps_tryUpdateListens o) _).trans (by split <;> rfl)

/-- receiver が開いていれば、`session_poll` は event が無くても結果を返す。 -/
theorem sessionPoll_isSome {cfg : Config} {o : SendOracle} {s : Service}
    (hs : receiverClosed s = false) : (sessionPoll cfg o none s).isSome = true := by
  unfold sessionPoll
  split <;> simp [hs]

/-- receiver が開いていれば、event の無い巡は結果を返す。 -/
theorem pollBody_isSome {cfg : Config} {task : Option (Priority × ServiceTask)} {o : SendOracle}
    {s : Service} (hs : receiverClosed s = false) : (pollBody cfg ⟨none, task, o⟩ s).isSome = true := by
  simp only [pollBody, Option.isSome_map']
  exact sessionPoll_isSome ((receiverClosed_pollPrefix cfg o s).trans hs)

/-- `session_poll` は receiver を閉じない。 -/
theorem sessionPoll_receiverClosed {cfg : Config} {o : SendOracle} {ev : Option SessionEvent}
    {s s' : Service} {out : List Effect} {p : Bool} (hp : sessionPoll cfg o ev s = some (s', out, p)) :
    receiverClosed s' = receiverClosed s := by
  rcases sessionPoll_cases hp with ⟨rfl, -⟩ | ⟨e, -, he⟩
  · rfl
  · exact handleSessionEvent_receiverClosed o he

/-- 一巡の初期化から future task の送出までで receiver が閉じるのは、終了判定が通るときだけ。 -/
theorem pollBody_receiverClosed {cfg : Config} {r : RoundInput} {s s' : Service}
    {out : List Effect} {sp tp : Bool} (hb : pollBody cfg r s = some (s', out, sp, tp))
    (hs : receiverClosed s = false) (hs' : receiverClosed s' = true) :
    terminationCondition s' = true := by
  simp only [pollBody, Option.map_eq_some', Prod.mk.injEq] at hb
  obtain ⟨b, hb, rfl, -⟩ := hb
  -- session event を読み終えるまで receiver は開いたまま
  have hb1 : receiverClosed b.1 = false :=
    (sessionPoll_receiverClosed hb).trans ((receiverClosed_pollPrefix cfg r.oracle s).trans hs)
  have hsend : ∀ x, receiverClosed (sendPendingTask r.oracle x).1 = receiverClosed x := fun _ => rfl
  rcases userTaskPoll_cases cfg r.oracle r.task b.1 with ⟨hc, -⟩ | ⟨p, t, -, hc, -⟩
  · rw [hsend, hc, hb1] at hs'
    cases hs'
  · by_cases ht : t = .shutdown true
    · subst ht
      rw [hc]
      exact (drained_after_quickShutdown r.oracle r.oracle b.1).1
    · rw [hsend, hc, keeps_handleServiceTask r.oracle cfg p ht b.1, hb1] at hs'
      cases hs'

theorem closedOnlyAtEnd_pollNext {cfg : Config} {r : RoundInput} {s : Service} {res : RoundResult}
    (h : ClosedOnlyAtEnd s) (hr : pollNext cfg r s = some res) : ClosedOnlyAtEnd res.service := by
  by_cases ht : terminationCondition s = true
  · rw [pollNext_head ht, Option.some.injEq] at hr
    subst hr
    exact fun _ => ⟨ht, rfl⟩
  · have hs : receiverClosed s = false := by
      by_contra hc
      exact ht (h (by simpa using hc)).1
    simp only [pollNext, ht, Bool.false_eq_true, ↓reduceIte, Option.map_eq_some'] at hr
    obtain ⟨⟨s', out, sp, tp⟩, hb, rfl⟩ := hr
    dsimp only
    split
    · rename_i ht'
      exact fun _ => ⟨ht', rfl⟩
    · rename_i ht'
      exact fun hc => absurd (pollBody_receiverClosed hb hs hc) ht'

theorem closedOnlyAtEnd_reachable {cfg : Config} {forever : Bool} {s : Service}
    {log : List Effect} (h : LiveReachable cfg forever s log) : ClosedOnlyAtEnd s := by
  induction h with
  | init => intro h; cases h
  | round r _ hr ih => exact closedOnlyAtEnd_pollNext ih hr
  | call i _ hsd hs ih =>
    -- 公開の `listen` と `dial` は receiver を閉じず、閉じていれば shutdown flag が立っている
    cases i with
    | round r =>
      obtain ⟨res, hr, ⟨⟩⟩ := Option.map_eq_some'.mp hs
      exact closedOnlyAtEnd_pollNext ih hr
    | listen address result =>
      cases hs
      exact fun hc => nomatch (ih ((listen_receiverClosed ..).symm.trans hc)).2.symm.trans hsd
    | dial address target result =>
      cases hs
      exact fun hc => nomatch (ih ((dial_receiverClosed ..).symm.trans hc)).2.symm.trans hsd

/-- `poll_next` の巡の run で、user task の `Shutdown(true)` を `user_task_poll` が読めば、
その巡は尻の終了判定で終わる。そのとき `listens`・`sessions`・future task の buffer は空で、
state は shutdown である。以後のどの巡も頭の終了判定で止まり、event も task も読まず、
handle に何も渡さず、状態も変えない。だから、stream が終わる前にだけ公開の `listen` と
`dial` を呼ぶどの run でも、`session_poll` が閉じた receiver から `None` を受けて
`unreachable!()` に入ることは無い（event が無い巡は必ず結果を返す）。 -/
theorem quickShutdown_terminates (cfg : Config) (forever : Bool) :
    (∀ (s : Service) (ev : Option SessionEvent) (p : Priority) (o : SendOracle) (s' : Service)
        (out : List Effect) (sp : Bool), terminationCondition s = false →
      pollBody cfg ⟨ev, some (p, .shutdown true), o⟩ s = some (s', out, sp, false) →
      pollNext cfg ⟨ev, some (p, .shutdown true), o⟩ s =
          some ⟨{ s' with shutdown := true }, out, .tailTerminated, !sp⟩ ∧
        s'.listens = ∅ ∧ s'.sessions = ∅ ∧ s'.futureTaskSender.isEmpty = true ∧
        s'.state.isShutdown = true ∧
        ∀ r, pollNext cfg r { s' with shutdown := true } =
          some ⟨{ s' with shutdown := true }, [], .headTerminated, false⟩) ∧
    (∀ s log, LiveReachable cfg forever s log →
      ∀ task o, (pollNext cfg ⟨none, task, o⟩ s).isSome = true) := by
  refine ⟨fun s ev p o s' out sp hs hb => ?_, fun s log h task o => ?_⟩
  · obtain ⟨b, rfl⟩ := pollBody_quickShutdown hb
    obtain ⟨ht, hl, hss, hf, hst, -⟩ := drained_after_quickShutdown o o b
    refine ⟨by simp [pollNext, hs, hb, ht], hl, hss, hf, hst, fun r => pollNext_head ht⟩
  · by_cases ht : terminationCondition s = true
    · simp [pollNext_head ht]
    · have hs : receiverClosed s = false := by
        by_contra hc
        exact ht (closedOnlyAtEnd_reachable h (by simpa using hc)).1
      simpa [pollNext, ht] using pollBody_isSome hs

/-- 例の run の後、session が一つと listen が一つある状態で `Shutdown(true)` を読む巡は、
user task の側を pending にせずに結果を返す。 -/
theorem pollBody_demo_quickShutdown :
    ∃ s' out sp, pollBody demoConfig ⟨none, some (.high, .shutdown true), .ok⟩ demoWorld.service =
      some (s', out, sp, false) := by
  have h : (pollBody demoConfig ⟨none, some (.high, .shutdown true), .ok⟩ demoWorld.service).any
      (!·.2.2.2) = true := by decide
  obtain ⟨⟨s', out, sp, tp⟩, hb, htp⟩ := Option.exists_of_any h
  obtain rfl : tp = false := by simpa using htp
  exact ⟨s', out, sp, hb⟩

/-- listen し、公開鍵 `[2]` の接続を受けて session を一つ開いた状態 `s` で `Shutdown(true)` を読む
巡。`s` でも、その巡の後の状態でも、event の無い巡は結果を返す。 -/
theorem quickShutdown_terminates_demo :
    ∃ s log s' out sp, LiveReachable demoConfig false s log ∧ s.sessions.len = 1 ∧
      terminationCondition s = false ∧
      pollBody demoConfig ⟨none, some (.high, .shutdown true), .ok⟩ s = some (s', out, sp, false) ∧
      (pollNext demoConfig ⟨none, some (.high, .shutdown true), .ok⟩ s =
          some ⟨{ s' with shutdown := true }, out, .tailTerminated, !sp⟩ ∧
        s'.listens = ∅ ∧ s'.sessions = ∅ ∧ s'.futureTaskSender.isEmpty = true ∧
        s'.state.isShutdown = true ∧
        ∀ r, pollNext demoConfig r { s' with shutdown := true } =
          some ⟨{ s' with shutdown := true }, [], .headTerminated, false⟩) ∧
      LiveReachable demoConfig false { s' with shutdown := true } (log ++ out) ∧
      (∀ task o, (pollNext demoConfig ⟨none, task, o⟩ s).isSome = true) ∧
      ∀ task o, (pollNext demoConfig ⟨none, task, o⟩ { s' with shutdown := true }).isSome = true := by
  have h₁ : LiveReachable demoConfig false _ _ :=
    .call (.listen [.ip4 1, .tcp 80] (.ok [.ip4 1, .tcp 80])) .init rfl rfl
  obtain ⟨res, hp, hc⟩ := Option.exists_of_any (p := fun res : RoundResult =>
      decide (res.service.sessions.len = 1 ∧ terminationCondition res.service = false) &&
        (pollBody demoConfig ⟨none, some (.high, .shutdown true), .ok⟩ res.service).any (!·.2.2.2))
    (o := pollNext demoConfig ⟨some (.handshakeSuccess 7 (some ⟨[2]⟩) [.ip4 2, .tcp 5000] .inbound
      (some [.ip4 1, .tcp 80])), none, .ok⟩
      (listen demoConfig [.ip4 1, .tcp 80] (.ok [.ip4 1, .tcp 80]) (Service.new false)).1)
    (by decide)
  simp only [Bool.and_eq_true, decide_eq_true_eq] at hc
  obtain ⟨⟨hlen, ht⟩, hb⟩ := hc
  obtain ⟨⟨s', out, sp, tp⟩, hb, htp⟩ := Option.exists_of_any hb
  obtain rfl : tp = false := by simpa using htp
  have h₂ := LiveReachable.round _ h₁ hp
  have hq := (quickShutdown_terminates demoConfig false).1 _ none .high .ok s' out sp ht hb
  have h₃ := LiveReachable.round _ h₂ hq.1
  exact ⟨_, _, s', out, sp, h₂, hlen, ht, hb, hq, h₃,
    (quickShutdown_terminates demoConfig false).2 _ _ h₂,
    (quickShutdown_terminates demoConfig false).2 _ _ h₃⟩

/-! ## 巡の run -/

/-- `poll_next` の巡を続けて回す。途中の巡が結果を返さなければ `none`。 -/
def runRounds (cfg : Config) : Service → List RoundInput → Option (Service × List Effect)
  | s, [] => some (s, [])
  | s, r :: rs => (pollNext cfg r s).bind fun res =>
    (runRounds cfg res.service rs).map fun p => (p.1, res.out ++ p.2)

/-- 終了判定が通り shutdown flag が立った状態では、どの巡の列も状態を変えず、何も起こさない。 -/
theorem runRounds_of_terminated {cfg : Config} {s : Service} (h : terminationCondition s = true)
    (hs : s.shutdown = true) : ∀ rs, runRounds cfg s rs = some (s, [])
  | [] => rfl
  | r :: rs => by
    have hfix : { s with shutdown := true } = s := by cases s; cases hs; rfl
    simp [runRounds, pollNext_head h, hfix, runRounds_of_terminated h hs rs]

/-- user task の `Shutdown(true)` を `user_task_poll` が読んだ巡の後、`sessions` と `listens` は
空で、以後のどの巡の列も状態を変えない。だから後から来る `HandshakeSuccess` や
`ListenStart` は、それが in-flight の handshake・dial・listen からでも、まだ動いている
listener からでも、session を開かず、listen の address を記録せず、listener も spawn しない。 -/
theorem quickShutdown_freezes (cfg : Config) :
    ∀ (s : Service) (ev : Option SessionEvent) (p : Priority) (o : SendOracle) (s' : Service)
      (out : List Effect) (sp : Bool), terminationCondition s = false →
      pollBody cfg ⟨ev, some (p, .shutdown true), o⟩ s = some (s', out, sp, false) →
      ∃ t, pollNext cfg ⟨ev, some (p, .shutdown true), o⟩ s =
          some ⟨t, out, .tailTerminated, !sp⟩ ∧
        t.sessions = ∅ ∧ t.listens = ∅ ∧ ∀ rs, runRounds cfg t rs = some (t, []) := by
  intro s ev p o s' out sp hs hb
  obtain ⟨b, rfl⟩ := pollBody_quickShutdown hb
  obtain ⟨ht, hl, hss, -⟩ := drained_after_quickShutdown o o b
  refine ⟨{ (sendPendingTask o (handleShutdown o true b).1).1 with shutdown := true }, ?_, hss, hl,
    runRounds_of_terminated ht rfl⟩
  simp [pollNext, hs, hb, ht]

/-- 例の run の後で `Shutdown(true)` を読む巡。 -/
theorem quickShutdown_freezes_demo :
    ∃ s' out sp, pollBody demoConfig ⟨none, some (.high, .shutdown true), .ok⟩ demoWorld.service =
        some (s', out, sp, false) ∧
      ∃ t, pollNext demoConfig ⟨none, some (.high, .shutdown true), .ok⟩ demoWorld.service =
          some ⟨t, out, .tailTerminated, !sp⟩ ∧
        t.sessions = ∅ ∧ t.listens = ∅ ∧ ∀ rs, runRounds demoConfig t rs = some (t, []) := by
  obtain ⟨s', out, sp, hb⟩ := pollBody_demo_quickShutdown
  exact ⟨s', out, sp, hb, quickShutdown_freezes demoConfig _ none .high .ok s' out sp (by decide) hb⟩

/-- 例の run の後、`/ip4/1/tcp/81` の `Listen` task を送って listen の試みを始め、
それから `Shutdown(false)` を送る。session が残るので service は終わらない。 -/
def gracefulShutdownTrace : List WorldInput :=
  demoTrace ++
    [.round none (some (.normal, .listen [.ip4 1, .tcp 81])) .ok,
     .round none (some (.high, .shutdown false)) .ok]

/-- graceful な shutdown の後でも、in-flight の listen の試みの `ListenStart` が address を
`listens` に記録し、listener を spawn する。 -/
theorem listens_grow_after_gracefulShutdown :
    ∃ w w' a, WorldReachable demoConfig false w ∧ w.service.state.shutdown = true ∧
      w.next demoConfig (.round (some (2, .bind a)) none .ok) = some w' ∧
      a ∉ w.service.listens ∧ a ∈ w'.service.listens ∧ Effect.spawn (.listener a) ∈ w'.log := by
  obtain ⟨w, hw, hp⟩ := WorldReachable.exists_of_run demoConfig false gracefulShutdownTrace
    (fun w => w.service.state.shutdown && !decide ([.ip4 1, .tcp 81] ∈ w.service.listens) &&
      (w.next demoConfig (.round (some (2, .bind [.ip4 1, .tcp 81])) none .ok)).any fun (w' : World) =>
        decide ([.ip4 1, .tcp 81] ∈ w'.service.listens) &&
          w'.log.contains (.spawn (.listener [.ip4 1, .tcp 81]))) (by decide)
  simp only [Bool.and_eq_true, Bool.not_eq_true', decide_eq_false_iff_not] at hp
  obtain ⟨⟨hs, hl⟩, hn⟩ := hp
  obtain ⟨w', hw', hn⟩ := Option.exists_of_any hn
  simp only [Bool.and_eq_true, decide_eq_true_eq] at hn
  exact ⟨w, w', _, hw, hs, hw', hl, hn.1, by simpa using hn.2⟩

end Tentacle
