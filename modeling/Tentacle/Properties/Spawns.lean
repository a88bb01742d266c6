import Tentacle.Properties.Step
import Tentacle.Properties.Buffers

/-!
# service が runtime に渡す future

service が runtime に future を渡す道は二つある。`future_task_sender` の buffer に積んで
`send_pending_task` で送り出すか、`spawn` で直に渡すかである。buffer に積むのは
`listen_inner`・`dial_inner`・`ServiceTask::FutureTask` だけ、直に渡すのは `session_open`・
`ListenStart` の分岐・公開の `listen` と `dial` だけである。

`SpawnFree p` は、future の種類 `p` について「buffer に `p` な future を積まず、`p` な future を
渡さない」操作の footprint である。`p` を `Session` にとれば `session_open` のほかの操作がみなそうで、
`p` を全部の future にとれば、`future_task_sender` の buffer が空のまま、何も runtime に渡さない
操作になる。
-/

namespace Tentacle

/-- runtime に `p` な future を渡す effect か。 -/
def Effect.spawns (p : FutureTask → Bool) : Effect → Bool
  | .spawn t => p t
  | _ => false

/-- future task の buffer に `p` な future が無い。 -/
def QueueFree (p : FutureTask → Bool) (s : Service) : Prop :=
  ∀ t ∈ s.futureTaskSender.items, p t = false

/-- buffer に `p` な future を積まず、runtime に `p` な future を渡さない操作。 -/
structure SpawnFree (p : FutureTask → Bool) (op : Op) : Prop where
  queue : ∀ s, QueueFree p s → QueueFree p (op s).1
  spawns : ∀ s, QueueFree p s → ∀ e ∈ (op s).2, e.spawns p = false

section SpawnFree

variable {p : FutureTask → Bool}

namespace SpawnFree

theorem seq {f g : Op} (hf : SpawnFree p f) (hg : SpawnFree p g) : SpawnFree p (Op.seq f g) where
  queue s h := hg.queue _ (hf.queue s h)
  spawns s h e he := by
    rcases List.mem_append.mp he with he | he
    · exact hf.spawns s h e he
    · exact hg.spawns _ (hf.queue s h) e he

theorem forEach {α : Type} {f : α → Op} : ∀ {xs : List α}, (∀ x ∈ xs, SpawnFree p (f x)) →
    SpawnFree p (Op.forEach xs f)
  | [], _ => ⟨fun _ h => h, fun _ _ _ h => by simp at h⟩
  | x :: xs, h => Op.forEach_cons x xs f ▸ (h x (by simp)).seq (forEach fun y hy => h y (by simp [hy]))

/-- 操作を始める時の状態で選ぶ。 -/
theorem dep {g : Service → Op} (h : ∀ t, SpawnFree p (g t)) : SpawnFree p fun s => g s s :=
  ⟨fun s => (h s).queue s, fun s => (h s).spawns s⟩

/-- 状態だけを変え、何も起こさない操作。 -/
theorem of_update {f : Service → Service} (h : ∀ s, QueueFree p s → QueueFree p (f s)) :
    SpawnFree p fun s => (f s, []) :=
  ⟨h, fun _ _ _ h => by simp at h⟩

/-- 状態を変えず、`p` な future を渡さない effect だけを出す操作。 -/
theorem emit {out : Service → List Effect} (h : ∀ s, ∀ e ∈ out s, e.spawns p = false) :
    SpawnFree p fun s => (s, out s) :=
  ⟨fun _ h => h, fun s _ => h s⟩

theorem ite {c : Service → Prop} [DecidablePred c] {f g : Op} (hf : SpawnFree p f)
    (hg : SpawnFree p g) : SpawnFree p fun s => if c s then f s else g s where
  queue s := by split <;> [exact hf.queue s; exact hg.queue s]
  spawns s := by split <;> [exact hf.spawns s; exact hg.spawns s]

end SpawnFree

theorem spawnFree_skip : SpawnFree p fun s => (s, []) := SpawnFree.of_update fun _ h => h

@[simp] theorem spawns_event (e : ServiceEvent) : (Effect.event e).spawns p = false := rfl
@[simp] theorem spawns_error (e : ServiceError) : (Effect.error e).spawns p = false := rfl
@[simp] theorem spawns_proto (e : ProtocolEvent) : (Effect.proto e).spawns p = false := rfl
@[simp] theorem spawns_spawn (t : FutureTask) : (Effect.spawn t).spawns p = p t := rfl

/-- `p` でない future を積んでも、buffer に `p` な future は無いまま。 -/
theorem queueFree_push {b : Buffer FutureTask} (hb : ∀ t ∈ b.items, p t = false)
    {t : FutureTask} (ht : p t = false) : ∀ x ∈ (b.push t).items, p x = false := by
  intro x hx
  rcases List.mem_append.mp hx with hx | hx
  · exact hb x hx
  · rw [List.mem_singleton.mp hx]; exact ht

/-! ## 何も積まず、何も渡さない操作 -/

theorem spawnFree_distributeToSession (o : SendOracle) : SpawnFree p (distributeToSession o) where
  queue s h := by unfold distributeToSession; split <;> exact h
  spawns s _ e he := by
    unfold distributeToSession at he
    split at he
    · simp at he
    · simp only [List.mem_filterMap, Option.ite_none_right_eq_some, Option.some.injEq] at he
      obtain ⟨_, _, _, rfl⟩ := he
      rfl

theorem spawnFree_pushToSession (o : SendOracle) (id : SessionId) (event : SessionEvent) :
    SpawnFree p (pushToSession o id event) :=
  SpawnFree.ite ((SpawnFree.of_update (f := fun s => { s with
      sessions := s.sessions.modifyVal id (·.push .high event) }) fun _ h => h).seq
    (spawnFree_distributeToSession o)) spawnFree_skip

theorem spawnFree_sessionClose (o : SendOracle) (id : SessionId) :
    ∀ src, SpawnFree p (sessionClose o id src)
  | .external => spawnFree_pushToSession o id _
  | .internal => ⟨fun s h => by simp only [sessionClose]; split <;> exact h, fun s _ e he => by
      rw [sessionClose_internal_out] at he
      cases hc : s.contexts id <;> simp [hc] at he
      subst he; rfl⟩

theorem spawnFree_shutdownDrain (quick : Bool) : SpawnFree p (shutdownDrain quick) where
  queue s _ := by unfold shutdownDrain; split <;> simp [QueueFree]
  spawns s _ e he := by
    simp only [shutdownDrain, List.mem_map] at he
    obtain ⟨_, _, rfl⟩ := he
    rfl

theorem spawnFree_handleShutdown (o : SendOracle) (quick : Bool) :
    SpawnFree p (handleShutdown o quick) :=
  (spawnFree_shutdownDrain quick).seq <|
    SpawnFree.dep fun _ => SpawnFree.forEach fun i _ => spawnFree_sessionClose o i _

theorem spawns_report {sid : Option SessionId} {q : ProtocolId} {r : SendResult} {e : Effect}
    (h : e ∈ reportProtocolHandle sid q r) : e.spawns p = false := by
  cases r <;> simp [reportProtocolHandle] at h <;> subst h <;> rfl

theorem spawnFree_sendToUserLevel (o : SendOracle) : SpawnFree p (sendToUserLevel o) where
  queue _ h := h
  spawns s _ e he := by
    simp only [sendToUserLevel, List.mem_append, List.mem_flatMap] at he
    rcases he with ⟨_, _, he⟩ | ⟨_, _, he⟩ <;> exact spawns_report he

theorem spawnFree_distributeToUserLevel (o : SendOracle) : SpawnFree p (distributeToUserLevel o) :=
  SpawnFree.ite spawnFree_skip <| SpawnFree.ite
    ((spawnFree_sendToUserLevel o).seq (spawnFree_handleShutdown o false))
    (spawnFree_sendToUserLevel o)

theorem spawnFree_protocolOpen (cfg : Config) (o : SendOracle) (id : SessionId) (q : ProtocolId)
    (v : String) : ∀ src, SpawnFree p (protocolOpen cfg o id q v src)
  | .external => spawnFree_pushToSession o id _
  | .internal => SpawnFree.emit fun s e h => by
    split at h <;> simp at h
    obtain ⟨-, rfl⟩ := h
    rfl

theorem spawnFree_protocolMessage (cfg : Config) (id : SessionId) (q : ProtocolId) (d : Bytes) :
    SpawnFree p (protocolMessage cfg id q d) :=
  SpawnFree.emit fun s e h => by
    split at h <;> simp at h
    obtain ⟨-, rfl⟩ := h
    rfl

theorem spawnFree_protocolClose (cfg : Config) (o : SendOracle) (id : SessionId) (q : ProtocolId) :
    ∀ src, SpawnFree p (protocolClose cfg o id q src)
  | .external => spawnFree_pushToSession o id _
  | .internal => ⟨fun _ h => h, fun s _ e h => by
    simp only [protocolClose] at h
    split at h <;> simp at h
    obtain ⟨-, rfl⟩ := h
    rfl⟩

theorem spawnFree_handleMessage (o : SendOracle) (target : TargetSession) (q : ProtocolId)
    (r : Priority) (d : Bytes) : SpawnFree p (handleMessage o target q r d) :=
  (SpawnFree.of_update (f := fun s => { s with
      sessions := routeMessage target q r (applyBeforeSend s.beforeSends q d) s.sessions })
    fun _ h => h).seq (spawnFree_distributeToSession o)

/-- `send_pending_task` が渡すのも buffer に残すのも、buffer にあった future である。 -/
theorem spawnFree_sendPendingTask (o : SendOracle) : SpawnFree p (sendPendingTask o) where
  queue s h t ht := h t <| by
    rw [← Buffer.sent_append_trySend s.futureTaskSender o.futureTask]
    exact List.mem_append_right _ ht
  spawns s h e he := by
    simp only [sendPendingTask, List.mem_map] at he
    obtain ⟨t, ht, rfl⟩ := he
    exact h t <| by
      rw [← Buffer.sent_append_trySend s.futureTaskSender o.futureTask]
      exact List.mem_append_left _ ht

theorem spawnFree_tryUpdateListens (o : SendOracle) : SpawnFree p (tryUpdateListens o) :=
  SpawnFree.ite spawnFree_skip <| (SpawnFree.of_update (f := fun s => { s with
      serviceContextListens := s.listens.keys
      serviceProtoHandles := s.serviceProtoHandles.mapVal fun _ b => b.push (.update s.listens.keys)
      sessionProtoHandles := s.sessionProtoHandles.mapVal fun _ b => b.push (.update s.listens.keys) })
    fun _ h => h).seq (spawnFree_distributeToUserLevel o)

theorem spawnFree_pushServiceProto (o : SendOracle) (q : ProtocolId) (e : ServiceProtocolEvent) :
    SpawnFree p (pushServiceProto o q e) :=
  SpawnFree.ite ((SpawnFree.of_update (f := fun s => { s with
      serviceProtoHandles := s.serviceProtoHandles.modifyVal q (·.push e) }) fun _ h => h).seq
    (spawnFree_distributeToUserLevel o)) spawnFree_skip

theorem spawnFree_pushSessionProto (o : SendOracle) (k : SessionId × ProtocolId)
    (e : SessionProtocolEvent) : SpawnFree p (pushSessionProto o k e) :=
  SpawnFree.ite ((SpawnFree.of_update (f := fun s => { s with
      sessionProtoHandles := s.sessionProtoHandles.modifyVal k (·.push e) }) fun _ h => h).seq
    (spawnFree_distributeToUserLevel o)) spawnFree_skip

theorem spawnFree_flushBuffer (o : SendOracle) : SpawnFree p (flushBuffer o) :=
  (SpawnFree.ite spawnFree_skip (spawnFree_distributeToSession o)).seq
    (SpawnFree.ite spawnFree_skip (spawnFree_distributeToUserLevel o))

theorem spawnFree_reportSession (f : SessionContext → ServiceError) (id : SessionId) :
    SpawnFree p fun s => (s, ((s.sessions.lookup id).map fun c => Effect.error (f c.inner)).toList) :=
  SpawnFree.emit fun s e h => by
    cases hc : s.sessions.lookup id <;> simp [hc] at h
    subst h; rfl

theorem spawnFree_handleListenError (address : Multiaddr) (error : String) :
    SpawnFree p (handleListenError address error) where
  queue s h := by unfold handleListenError; split <;> exact h
  spawns s _ e he := by
    unfold handleListenError at he
    split at he <;> simp only [List.mem_cons, List.mem_singleton, List.not_mem_nil, or_false] at he
    · rcases he with rfl | rfl <;> rfl
    · subst he; rfl

/-- 失敗した dial と handshake の報告。 -/
theorem spawnFree_dialerError (address : Multiaddr) (decrease : Bool) (err : ServiceError) :
    SpawnFree p fun s => if decrease then
      ({ s with state := s.state.decrease, dialProtocols := s.dialProtocols.erase address }, [.error err])
      else (s, []) :=
  SpawnFree.ite ⟨fun _ h => h, fun _ _ _ h => by simp at h; subst h; rfl⟩ spawnFree_skip

/-! ## 積むか渡すかする操作 -/

theorem spawnFree_sendFutureTask (o : SendOracle) {t : FutureTask} (ht : p t = false) :
    SpawnFree p (sendFutureTask o t) :=
  (SpawnFree.of_update (f := fun s => { s with futureTaskSender := s.futureTaskSender.push t })
    fun _ h => queueFree_push h ht).seq (spawnFree_sendPendingTask o)

theorem spawnFree_handleDial (cfg : Config) (address : Multiaddr) (target : TargetProtocol)
    (hd : p (.dial address) = false) : SpawnFree p (handleDial cfg address target) :=
  SpawnFree.ite spawnFree_skip ⟨fun s h => by
      simp only [dialInner]; split
      · exact h
      · exact queueFree_push h hd,
    fun s _ e he => by
      cases hr : (dialInner cfg address target s).2 <;> simp [dialFailure, hr] at he
      subst he; rfl⟩

theorem spawnFree_handleListen (cfg : Config) (address : Multiaddr)
    (hl : p (.listen address) = false) : SpawnFree p (handleListen cfg address) :=
  SpawnFree.ite spawnFree_skip ⟨fun s h => by
      simp only [listenInner]; split
      · exact h
      · exact queueFree_push h hl,
    fun s _ e he => by
      cases hr : (listenInner cfg address s).2 <;> simp [listenFailure, hr] at he
      subst he; rfl⟩

/-- user task の処理は、quick な shutdown も含めて、`dial_inner`・`listen_inner`・
`ServiceTask::FutureTask` の future のほかは積まず、何も直に渡さない。 -/
theorem spawnFree_handleServiceTask (cfg : Config) (o : SendOracle) (r : Priority)
    (hd : ∀ a, p (.dial a) = false) (hl : ∀ a, p (.listen a) = false)
    (hu : ∀ n, p (.user n) = false) : ∀ t, SpawnFree p (handleServiceTask cfg o r t)
  | .protocolMessage target protoId data => spawnFree_handleMessage o target protoId r data
  | .dial address target => spawnFree_handleDial cfg address target (hd address)
  | .listen address => spawnFree_handleListen cfg address (hl address)
  | .disconnect id => spawnFree_sessionClose o id .external
  | .futureTask n => spawnFree_sendFutureTask o (hu n)
  | .setProtocolNotify .. | .removeProtocolNotify .. => spawnFree_pushServiceProto o _ _
  | .setProtocolSessionNotify .. | .removeProtocolSessionNotify .. => spawnFree_pushSessionProto o _ _
  | .protocolOpen id .all => SpawnFree.forEach fun q _ => spawnFree_protocolOpen cfg o id q "" .external
  | .protocolOpen id (.single q) => spawnFree_protocolOpen cfg o id q "" .external
  | .protocolOpen id (.multi _) =>
    SpawnFree.forEach fun q _ => spawnFree_protocolOpen cfg o id q "" .external
  | .protocolClose id protoId => spawnFree_protocolClose cfg o id protoId .external
  | .shutdown quick => spawnFree_handleShutdown o quick

/-- session を開け閉めしない event の処理は、listener のほかは何も渡さない。 -/
theorem spawnFree_handleSessionEvent (cfg : Config) (o : SendOracle) {e : SessionEvent}
    (he : e.touchesSessions = false) (hl : ∀ a, p (.listener a) = false) :
    ∃ op, SpawnFree p op ∧ ∀ s, handleSessionEvent cfg o e s = some (op s) := by
  cases e with
  | sessionClose => cases he
  | handshakeSuccess => cases he
  | handshakeError ty error address =>
    refine ⟨_, spawnFree_dialerError address ty.isOutbound
      (.dialerError address (.handshakeError error)), fun s => ?_⟩
    simp only [handleSessionEvent]
    split <;> rfl
  | protocolMessage id protoId data =>
    exact ⟨_, spawnFree_protocolMessage cfg id protoId data, fun _ => rfl⟩
  | protocolOpen id protoId version =>
    exact ⟨_, spawnFree_protocolOpen cfg o id protoId version .internal, fun _ => rfl⟩
  | protocolClose id protoId =>
    exact ⟨_, spawnFree_protocolClose cfg o id protoId .internal, fun _ => rfl⟩
  | protocolSelectError id protoName =>
    exact ⟨_, spawnFree_reportSession (.protocolSelectError protoName) id, fun _ => rfl⟩
  | protocolError id protoId error =>
    exact ⟨_, SpawnFree.emit fun _ _ h => by simp at h; subst h; rfl, fun _ => rfl⟩
  | dialError address error =>
    exact ⟨_, spawnFree_dialerError address true _, fun _ => rfl⟩
  | listenError address error => exact ⟨_, spawnFree_handleListenError address error, fun _ => rfl⟩
  | sessionTimeout id => exact ⟨_, spawnFree_reportSession .sessionTimeout id, fun _ => rfl⟩
  | muxerError id error => exact ⟨_, spawnFree_reportSession (.muxerError · error) id, fun _ => rfl⟩
  | listenStart address =>
    refine ⟨_, ⟨fun s h => ?_, fun s h x hx => ?_⟩, fun _ => rfl⟩
    · exact (spawnFree_tryUpdateListens o).queue _ h
    · simp only [handleListenStart, List.mem_append, List.mem_singleton] at hx
      rcases hx with (rfl | hx) | rfl
      · rfl
      · exact (spawnFree_tryUpdateListens o).spawns _ (by exact h) x hx
      · exact hl address
  | protocolHandleError error protoId =>
    exact ⟨Op.seq (fun s => (s, [.error (.protocolHandleError protoId error)]))
      (handleShutdown o false), (SpawnFree.emit fun _ _ h => by simp at h; subst h; rfl).seq
      (spawnFree_handleShutdown o false), fun _ => rfl⟩
  | other => exact ⟨_, spawnFree_skip, fun _ => rfl⟩

end SpawnFree

end Tentacle
