import Tentacle.World

/-!
# 何が session の表を変えるか

session の表（id から context への対応）と、session の handler の buffer の key を変えるのは
次の三つだけである。

* `session_close` の内からの通知 — 一つの id を外し、外せたら `SessionClose` を出す
* `session_open` — 空いた id に一つ入れ、`SessionOpen` を出す
* quick な shutdown — 上の `session_close` を全部の id について行う

それ以外の操作は `Quiet`：表を変えず、handler の buffer の key を増やさず、
`SessionOpen` も `SessionClose` も出さない。

`StepInvariant` は「`Quiet` な操作と上の二つで保たれる」ことを束ねたもので、
`StepInvariant.reachable` がそこから run 全体での成立を出す。
-/

namespace Tentacle

/-- session の id から、その context。 -/
def Service.contexts (s : Service) (id : SessionId) : Option SessionContext :=
  (s.sessions.lookup id).map (·.inner)

@[simp]
theorem contexts_new (forever : Bool) (id : SessionId) : (Service.new forever).contexts id = none :=
  rfl

theorem isSome_contexts {s : Service} {id : SessionId} : (s.contexts id).isSome ↔ id ∈ s.sessions := by
  simp [Service.contexts, AList.lookup_isSome]

/-- `SessionOpen` か `SessionClose` か。 -/
def Effect.opensOrCloses : Effect → Bool
  | .event (.sessionOpen _) | .event (.sessionClose _) => true
  | _ => false

/-- `op` の下で `Inv` が保たれる。 -/
def Preserves (Inv : Service → List Effect → Prop) (op : Op) : Prop :=
  ∀ s log, Inv s log → Inv (op s).1 (log ++ (op s).2)

section Preserves

variable {Inv : Service → List Effect → Prop}

theorem Preserves.seq {f g : Op} (hf : Preserves Inv f) (hg : Preserves Inv g) :
    Preserves Inv (Op.seq f g) := by
  intro s log h
  simpa [List.append_assoc] using hg _ _ (hf s log h)

theorem Preserves.forEach {α : Type} {f : α → Op} :
    ∀ {xs : List α}, (∀ x ∈ xs, Preserves Inv (f x)) → Preserves Inv (Op.forEach xs f)
  | [], _ => fun s log h => by simpa using h
  | x :: xs, h => by
    rw [Op.forEach_cons]
    exact (h x (by simp)).seq (Preserves.forEach fun y hy => h y (by simp [hy]))

end Preserves

/-- session の表と handler の buffer の key を変えず、session を開け閉めしない操作。 -/
structure Quiet (op : Op) : Prop where
  contexts : ∀ s, (op s).1.contexts = s.contexts
  handles : ∀ s k, k ∈ (op s).1.sessionProtoHandles → k ∈ s.sessionProtoHandles
  effects : ∀ s e, e ∈ (op s).2 → e.opensOrCloses = false

namespace Quiet

theorem seq {f g : Op} (hf : Quiet f) (hg : Quiet g) : Quiet (Op.seq f g) where
  contexts s := by simp [hg.contexts, hf.contexts]
  handles s k h := hf.handles s k (hg.handles _ k h)
  effects s e h := by
    rcases List.mem_append.mp h with h | h
    · exact hf.effects s e h
    · exact hg.effects _ e h

theorem forEach {α : Type} {f : α → Op} : ∀ {xs : List α}, (∀ x ∈ xs, Quiet (f x)) →
    Quiet (Op.forEach xs f)
  | [], _ => ⟨fun _ => rfl, fun _ _ h => h, fun _ _ h => by simp at h⟩
  | x :: xs, h => Op.forEach_cons x xs f ▸ (h x (by simp)).seq (forEach fun y hy => h y (by simp [hy]))

/-- 操作を始める時の状態で選ぶ。 -/
theorem dep {g : Service → Op} (h : ∀ t, Quiet (g t)) : Quiet fun s => g s s where
  contexts s := (h s).contexts s
  handles s := (h s).handles s
  effects s := (h s).effects s

/-- 状態を変えず、session を開け閉めしない effect だけを出す操作。 -/
theorem emit {out : Service → List Effect} (h : ∀ s, ∀ e ∈ out s, e.opensOrCloses = false) :
    Quiet fun s => (s, out s) :=
  ⟨fun _ => rfl, fun _ _ h => h, h⟩

/-- 状態だけを変え、何も起こさない操作。 -/
theorem of_update {f : Service → Service} (hc : ∀ s, (f s).contexts = s.contexts)
    (hh : ∀ s k, k ∈ (f s).sessionProtoHandles → k ∈ s.sessionProtoHandles) :
    Quiet fun s => (f s, []) :=
  ⟨hc, hh, fun _ _ h => by simp at h⟩

/-- `s` によって二つの quiet な操作を選ぶ。 -/
theorem ite {c : Service → Prop} [DecidablePred c] {f g : Op} (hf : Quiet f) (hg : Quiet g) :
    Quiet fun s => if c s then f s else g s where
  contexts s := by split <;> simp [hf.contexts, hg.contexts]
  handles s k := by split <;> [exact hf.handles s k; exact hg.handles s k]
  effects s e := by split <;> [exact hf.effects s e; exact hg.effects s e]

end Quiet

/-- 何もしない操作。 -/
theorem quiet_skip : Quiet fun s => (s, []) := Quiet.of_update (fun _ => rfl) fun _ _ h => h

/-! ## context を変えない書き換え -/

@[simp]
theorem contexts_mapVal (s : Service) {f : SessionId → SessionController → SessionController}
    (hf : ∀ k c, (f k c).inner = c.inner) :
    ({ s with sessions := s.sessions.mapVal f } : Service).contexts = s.contexts := by
  funext id
  simp only [Service.contexts, AList.lookup_mapVal, Option.map_map]
  cases s.sessions.lookup id <;> simp [hf]

@[simp]
theorem contexts_modifyVal (s : Service) (id : SessionId) {f : SessionController → SessionController}
    (hf : ∀ c, (f c).inner = c.inner) :
    ({ s with sessions := s.sessions.modifyVal id f } : Service).contexts = s.contexts :=
  contexts_mapVal s fun _ c => by split <;> simp [hf]

/-! ## quiet な操作 -/

theorem quiet_distributeToSession (o : SendOracle) : Quiet (distributeToSession o) where
  contexts s := by unfold distributeToSession; split <;> simp
  handles s k h := by unfold distributeToSession at h; split at h <;> exact h
  effects s e h := by
    unfold distributeToSession at h
    split at h
    · simp at h
    · simp only [List.mem_filterMap, Option.ite_none_right_eq_some, Option.some.injEq] at h
      obtain ⟨_, _, _, rfl⟩ := h
      rfl

theorem quiet_pushToSession (o : SendOracle) (id : SessionId) (event : SessionEvent) :
    Quiet (pushToSession o id event) :=
  Quiet.ite ((Quiet.of_update (f := fun s => { s with
      sessions := s.sessions.modifyVal id (·.push .high event) })
    (fun s => contexts_modifyVal s id fun _ => rfl) fun _ _ h => h).seq
    (quiet_distributeToSession o)) quiet_skip

theorem quiet_sessionClose_external (o : SendOracle) (id : SessionId) :
    Quiet (sessionClose o id .external) :=
  quiet_pushToSession o id _

theorem quiet_shutdownDrain_graceful : Quiet (shutdownDrain false) :=
  ⟨fun _ => rfl, fun _ _ h => h, fun s e h => by
    simp only [shutdownDrain, List.mem_map] at h
    obtain ⟨_, _, rfl⟩ := h
    rfl⟩

theorem quiet_handleShutdown_graceful (o : SendOracle) : Quiet (handleShutdown o false) :=
  quiet_shutdownDrain_graceful.seq <|
    Quiet.dep fun _ => Quiet.forEach fun i _ => quiet_sessionClose_external o i

theorem opensOrCloses_report {sid : Option SessionId} {p : ProtocolId} {r : SendResult}
    {e : Effect} (h : e ∈ reportProtocolHandle sid p r) : e.opensOrCloses = false := by
  cases r <;> simp [reportProtocolHandle] at h <;> subst h <;> rfl

theorem quiet_sendToUserLevel (o : SendOracle) : Quiet (sendToUserLevel o) where
  contexts _ := rfl
  handles s k h := by simpa [sendToUserLevel] using h
  effects s e h := by
    simp only [sendToUserLevel, List.mem_append, List.mem_flatMap] at h
    rcases h with ⟨_, _, h⟩ | ⟨_, _, h⟩ <;> exact opensOrCloses_report h

theorem quiet_distributeToUserLevel (o : SendOracle) : Quiet (distributeToUserLevel o) :=
  Quiet.ite quiet_skip <|
    Quiet.ite ((quiet_sendToUserLevel o).seq (quiet_handleShutdown_graceful o))
      (quiet_sendToUserLevel o)

theorem quiet_protocolOpen (cfg : Config) (o : SendOracle) (id : SessionId) (p : ProtocolId)
    (v : String) (src : Source) : Quiet (protocolOpen cfg o id p v src) := by
  cases src with
  | external => exact quiet_pushToSession o id _
  | internal =>
    refine Quiet.emit fun s e h => ?_
    split at h <;> simp at h
    obtain ⟨-, rfl⟩ := h
    rfl

theorem quiet_protocolMessage (cfg : Config) (id : SessionId) (p : ProtocolId) (d : Bytes) :
    Quiet (protocolMessage cfg id p d) := by
  refine Quiet.emit fun s e h => ?_
  split at h <;> simp at h
  obtain ⟨-, rfl⟩ := h
  rfl

theorem quiet_protocolClose (cfg : Config) (o : SendOracle) (id : SessionId) (p : ProtocolId)
    (src : Source) : Quiet (protocolClose cfg o id p src) := by
  cases src with
  | external => exact quiet_pushToSession o id _
  | internal =>
    refine ⟨fun _ => rfl, fun s k h => (AList.mem_erase.mp h).2, fun s e h => ?_⟩
    simp only [protocolClose] at h
    split at h <;> simp at h
    obtain ⟨-, rfl⟩ := h
    rfl

theorem lookup_modifyVal_inner {f : SessionController → SessionController}
    (hf : ∀ c, (f c).inner = c.inner) (id k : SessionId) (m : HashMap SessionId SessionController) :
    ((m.modifyVal id f).lookup k).map (·.inner) = (m.lookup k).map (·.inner) := by
  rw [AList.lookup_modifyVal]
  split
  · subst k; cases m.lookup id <;> simp [hf]
  · rfl

theorem lookup_foldl_modifyVal_inner {f : SessionController → SessionController}
    (hf : ∀ c, (f c).inner = c.inner) (k : SessionId) :
    ∀ (ids : List SessionId) (m : HashMap SessionId SessionController),
      ((ids.foldl (fun m id => m.modifyVal id f) m).lookup k).map (·.inner) =
        (m.lookup k).map (·.inner)
  | [], _ => rfl
  | id :: ids, m => (lookup_foldl_modifyVal_inner hf k ids _).trans
      (lookup_modifyVal_inner hf id k m)

/-- 宛先に積んでも、どの session の context も変わらない。 -/
theorem lookup_routeMessage_inner (target : TargetSession) (p : ProtocolId) (q : Priority)
    (d : Bytes) (m : HashMap SessionId SessionController) (k : SessionId) :
    ((routeMessage target p q d m).lookup k).map (·.inner) = (m.lookup k).map (·.inner) := by
  cases target with
  | single id => exact lookup_modifyVal_inner (f := (·.pushMessage p q d)) (fun _ => rfl) id k m
  | multi ids =>
    exact lookup_foldl_modifyVal_inner (f := (·.pushMessage p q d)) (fun _ => rfl) k ids m
  | all =>
    simp only [routeMessage, AList.lookup_mapVal, Option.map_map]
    cases m.lookup k <;> rfl

theorem quiet_handleMessage (o : SendOracle) (target : TargetSession) (p : ProtocolId)
    (q : Priority) (d : Bytes) : Quiet (handleMessage o target p q d) :=
  (Quiet.of_update (f := fun s => { s with
      sessions := routeMessage target p q (applyBeforeSend s.beforeSends p d) s.sessions })
    (fun s => funext (lookup_routeMessage_inner target p q _ s.sessions)) fun _ _ h => h).seq
    (quiet_distributeToSession o)

theorem quiet_sendPendingTask (o : SendOracle) : Quiet (sendPendingTask o) where
  contexts _ := rfl
  handles _ _ h := h
  effects s e h := by
    simp only [sendPendingTask, List.mem_map] at h
    obtain ⟨_, _, rfl⟩ := h
    rfl

theorem quiet_sendFutureTask (o : SendOracle) (t : FutureTask) : Quiet (sendFutureTask o t) :=
  (Quiet.of_update (f := fun s => { s with futureTaskSender := s.futureTaskSender.push t })
    (fun _ => rfl) fun _ _ h => h).seq (quiet_sendPendingTask o)

theorem quiet_tryUpdateListens (o : SendOracle) : Quiet (tryUpdateListens o) :=
  Quiet.ite quiet_skip <| (Quiet.of_update (f := fun s => { s with
      serviceContextListens := s.listens.keys
      serviceProtoHandles := s.serviceProtoHandles.mapVal fun _ b => b.push (.update s.listens.keys)
      sessionProtoHandles := s.sessionProtoHandles.mapVal fun _ b => b.push (.update s.listens.keys) })
    (fun _ => rfl) fun _ _ h => AList.mem_mapVal.mp h).seq (quiet_distributeToUserLevel o)

theorem quiet_handleListenError (address : Multiaddr) (error : String) :
    Quiet (handleListenError address error) :=
  Quiet.ite ⟨fun _ => rfl, fun _ _ h => h, fun _ e h => by
      simp only [List.mem_cons, List.mem_singleton, List.not_mem_nil, or_false] at h
      rcases h with rfl | rfl <;> rfl⟩
    ⟨fun _ => rfl, fun _ _ h => h, fun _ e h => by
      simp only [List.mem_singleton] at h
      subst h; rfl⟩

theorem quiet_handleListenStart (o : SendOracle) (address : Multiaddr) :
    Quiet (handleListenStart o address) where
  contexts s := (quiet_tryUpdateListens o).contexts _
  handles s k h := (quiet_tryUpdateListens o).handles { s with
    listens := s.listens.insert address (), state := s.state.decrease } k h
  effects s e h := by
    simp only [handleListenStart, List.mem_append, List.mem_singleton] at h
    rcases h with (rfl | h) | rfl
    · rfl
    · exact (quiet_tryUpdateListens o).effects _ e h
    · rfl

theorem contexts_eq_of_sessions {s s' : Service} (h : s'.sessions = s.sessions) :
    s'.contexts = s.contexts := by
  unfold Service.contexts; rw [h]

theorem opensOrCloses_dialFailure {a : Multiaddr} {r : Except String Unit} {e : Effect}
    (h : e ∈ dialFailure a r) : e.opensOrCloses = false := by
  cases r <;> simp [dialFailure] at h; subst h; rfl

theorem opensOrCloses_listenFailure {a : Multiaddr} {r : Except String Unit} {e : Effect}
    (h : e ∈ listenFailure a r) : e.opensOrCloses = false := by
  cases r <;> simp [listenFailure] at h; subst h; rfl

theorem quiet_handleDial (cfg : Config) (address : Multiaddr) (target : TargetProtocol) :
    Quiet (handleDial cfg address target) :=
  Quiet.ite quiet_skip ⟨fun _ => contexts_eq_of_sessions (dialInner_sessions ..),
    fun _ _ h => by simpa using h, fun _ _ h => opensOrCloses_dialFailure h⟩

theorem quiet_handleListen (cfg : Config) (address : Multiaddr) :
    Quiet (handleListen cfg address) :=
  Quiet.ite quiet_skip ⟨fun _ => contexts_eq_of_sessions (listenInner_sessions ..),
    fun _ _ h => by simpa using h, fun _ _ h => opensOrCloses_listenFailure h⟩

theorem quiet_pushServiceProto (o : SendOracle) (p : ProtocolId) (e : ServiceProtocolEvent) :
    Quiet (pushServiceProto o p e) :=
  Quiet.ite ((Quiet.of_update (f := fun s => { s with
      serviceProtoHandles := s.serviceProtoHandles.modifyVal p (·.push e) })
    (fun _ => rfl) fun _ _ h => h).seq (quiet_distributeToUserLevel o)) quiet_skip

theorem quiet_pushSessionProto (o : SendOracle) (k : SessionId × ProtocolId)
    (e : SessionProtocolEvent) : Quiet (pushSessionProto o k e) :=
  Quiet.ite ((Quiet.of_update (f := fun s => { s with
      sessionProtoHandles := s.sessionProtoHandles.modifyVal k (·.push e) })
    (fun _ => rfl) fun _ _ h => AList.mem_modifyVal.mp h).seq (quiet_distributeToUserLevel o))
    quiet_skip

theorem quiet_flushBuffer (o : SendOracle) : Quiet (flushBuffer o) :=
  (Quiet.ite quiet_skip (quiet_distributeToSession o)).seq
    (Quiet.ite quiet_skip (quiet_distributeToUserLevel o))

theorem quiet_shutdownDrain (quick : Bool) : Quiet (shutdownDrain quick) := by
  cases quick with
  | false => exact quiet_shutdownDrain_graceful
  | true =>
    refine ⟨fun _ => rfl, fun _ _ h => by simp [shutdownDrain] at h, fun s e h => ?_⟩
    simp only [shutdownDrain, List.mem_map] at h
    obtain ⟨_, _, rfl⟩ := h
    rfl

theorem quiet_handleServiceTask (cfg : Config) (o : SendOracle) (p : Priority) {t : ServiceTask}
    (ht : t ≠ .shutdown true) : Quiet (handleServiceTask cfg o p t) := by
  cases t with
  | protocolMessage target protoId data => exact quiet_handleMessage o target protoId p data
  | dial address target => exact quiet_handleDial cfg address target
  | listen address => exact quiet_handleListen cfg address
  | disconnect id => exact quiet_sessionClose_external o id
  | futureTask task => exact quiet_sendFutureTask o _
  | setProtocolNotify protoId interval token => exact quiet_pushServiceProto o protoId _
  | removeProtocolNotify protoId token => exact quiet_pushServiceProto o protoId _
  | setProtocolSessionNotify id protoId interval token => exact quiet_pushSessionProto o _ _
  | removeProtocolSessionNotify id protoId token => exact quiet_pushSessionProto o _ _
  | protocolOpen id target =>
    cases target with
    | all => exact Quiet.forEach fun q _ => quiet_protocolOpen cfg o id q "" .external
    | single q => exact quiet_protocolOpen cfg o id q "" .external
    | multi qs => exact Quiet.forEach fun q _ => quiet_protocolOpen cfg o id q "" .external
  | protocolClose id protoId => exact quiet_protocolClose cfg o id protoId .external
  | shutdown quick =>
    cases quick with
    | false => exact quiet_handleShutdown_graceful o
    | true => exact absurd rfl ht

/-- session を開け閉めする event。 -/
def SessionEvent.touchesSessions : SessionEvent → Bool
  | .sessionClose _ | .handshakeSuccess .. => true
  | _ => false

/-- 見つかった session について error を一つ出すか、何も出さない。 -/
theorem quiet_reportSession (f : SessionContext → ServiceError) (id : SessionId) :
    Quiet fun s => (s, ((s.sessions.lookup id).map fun c => Effect.error (f c.inner)).toList) :=
  Quiet.emit fun s e h => by
    cases hc : s.sessions.lookup id <;> simp [hc] at h
    subst h; rfl

/-- session を開け閉めしない event の処理は、quiet な操作である。 -/
theorem handleSessionEvent_quiet (cfg : Config) (o : SendOracle) {e : SessionEvent}
    (he : e.touchesSessions = false) :
    ∃ op, Quiet op ∧ ∀ s, handleSessionEvent cfg o e s = some (op s) := by
  cases e with
  | sessionClose => cases he
  | handshakeSuccess => cases he
  | handshakeError ty error address =>
    refine ⟨fun s => if ty.isOutbound then
        ({ s with state := s.state.decrease, dialProtocols := s.dialProtocols.erase address },
          [.error (.dialerError address (.handshakeError error))]) else (s, []),
      Quiet.ite ⟨fun _ => rfl, fun _ _ h => h, fun _ _ h => by simp at h; subst h; rfl⟩ quiet_skip,
      fun s => ?_⟩
    simp only [handleSessionEvent]
    split <;> rfl
  | protocolMessage id protoId data => exact ⟨_, quiet_protocolMessage cfg id protoId data, fun _ => rfl⟩
  | protocolOpen id protoId version =>
    exact ⟨_, quiet_protocolOpen cfg o id protoId version .internal, fun _ => rfl⟩
  | protocolClose id protoId => exact ⟨_, quiet_protocolClose cfg o id protoId .internal, fun _ => rfl⟩
  | protocolSelectError id protoName =>
    exact ⟨_, quiet_reportSession (.protocolSelectError protoName) id, fun _ => rfl⟩
  | protocolError id protoId error =>
    exact ⟨_, Quiet.emit fun _ _ h => by simp at h; subst h; rfl, fun _ => rfl⟩
  | dialError address error =>
    exact ⟨fun s => ({ s with state := s.state.decrease, dialProtocols := s.dialProtocols.erase address },
        [.error (.dialerError address (.transportError error))]),
      ⟨fun _ => rfl, fun _ _ h => h, fun _ _ h => by simp at h; subst h; rfl⟩, fun _ => rfl⟩
  | listenError address error => exact ⟨_, quiet_handleListenError address error, fun _ => rfl⟩
  | sessionTimeout id => exact ⟨_, quiet_reportSession .sessionTimeout id, fun _ => rfl⟩
  | muxerError id error => exact ⟨_, quiet_reportSession (.muxerError · error) id, fun _ => rfl⟩
  | listenStart address => exact ⟨_, quiet_handleListenStart o address, fun _ => rfl⟩
  | protocolHandleError error protoId =>
    exact ⟨Op.seq (fun s => (s, [.error (.protocolHandleError protoId error)]))
      (handleShutdown o false), (Quiet.emit fun _ _ h => by simp at h; subst h; rfl).seq
      (quiet_handleShutdown_graceful o), fun _ => rfl⟩
  | other => exact ⟨_, quiet_skip, fun _ => rfl⟩

end Tentacle
