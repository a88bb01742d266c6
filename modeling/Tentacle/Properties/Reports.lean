import Tentacle.Properties.Pairing

/-!
# handle に渡る session の context

`ServiceHandle` の callback のうち、`handle_proto` に渡る `ProtocolEvent` の三つと、
`handle_error` に渡る `SessionBlocked`・`ProtocolSelectError`・`SessionTimeout`・`MuxerError` は
session の context を運ぶ。service はこれらを `sessions` から取り出した context でしか作らない
（`distribute_to_session` は表を回し、ほかは `sessions.get(&id)` が見つかったときだけ報告する）。

* `Named` — 操作が出す、context を運ぶ effect が、どれも操作を始めた時の表にある session の
  context である。`Quiet` な操作と組み合わせて、handler ごとに部品から組み立てる
* `liveSessions` — `openSessions` と同じく `SessionOpen` と `SessionClose` をたどり、加えて
  context を運ぶ effect が、その時点で開いていて閉じていない session のものでなければ `none`
* `Live` と `live_step` — run のどの時点でも `liveSessions` は最後までたどれて、表と一致する
* `sessionReports_live` — handle が受ける context は、どれもその時点で開いている session のもの。
  `SessionOpen` より前にも `SessionClose` より後にも、その session について callback は来ない
-/

namespace Tentacle

/-- handle に渡る effect が運ぶ session の context。 -/
def Effect.sessionContext? : Effect → Option SessionContext
  | .proto (.connected c ..) | .proto (.received c ..) | .proto (.disconnected _ c) => some c
  | .error (.protocolSelectError _ c) | .error (.sessionTimeout c) | .error (.muxerError c _)
  | .error (.sessionBlocked c) => some c
  | _ => none

@[simp] theorem sessionContext_event (e : ServiceEvent) : (Effect.event e).sessionContext? = none :=
  rfl

@[simp] theorem sessionContext_spawn (t : FutureTask) : (Effect.spawn t).sessionContext? = none :=
  rfl

@[simp] theorem sessionContext_shutdownHandle (h : Handle) :
    (Effect.shutdownHandle h).sessionContext? = none :=
  rfl

@[simp] theorem sessionContext_dialerError (a : Multiaddr) (k : DialerErrorKind) :
    (Effect.error (.dialerError a k)).sessionContext? = none :=
  rfl

@[simp] theorem sessionContext_listenError (a : Multiaddr) (k : ListenErrorKind) :
    (Effect.error (.listenError a k)).sessionContext? = none :=
  rfl

/-- context を運ぶ effect は、session を開け閉めしない。 -/
theorem openSessionsStep_of_sessionContext {e : Effect} {c : SessionContext}
    (h : e.sessionContext? = some c) (m : HashMap SessionId SessionContext) :
    openSessionsStep m e = some m := by
  cases e with
  | event e => cases h
  | _ => rfl

theorem contexts_of_lookup {s : Service} {id : SessionId} {c : SessionController}
    (h : s.sessions.lookup id = some c) : s.contexts id = some c.inner := by
  simp [Service.contexts, h]

/-! ## 操作が名指す context -/

/-- 操作が出す、context を運ぶ effect が、どれも始めの状態の表にある session の context である。 -/
def Named (op : Op) : Prop :=
  ∀ s, ∀ e ∈ (op s).2, ∀ c, e.sessionContext? = some c → ∃ id, s.contexts id = some c

namespace Named

/-- context を運ぶ effect を出さない操作。 -/
theorem anonymous {op : Op} (h : ∀ s, ∀ e ∈ (op s).2, e.sessionContext? = none) : Named op :=
  fun s e he c hc => by rw [h s e he] at hc; cases hc

/-- 前の操作が表を変えなければ、後の操作が名指す context も始めの表にある。 -/
theorem seq {f g : Op} (hq : Quiet f) (hf : Named f) (hg : Named g) : Named (Op.seq f g) := by
  intro s e he
  rcases List.mem_append.mp he with he | he
  · exact hf s e he
  · exact hq.contexts s ▸ hg _ e he

theorem forEach {α : Type} {f : α → Op} : ∀ {xs : List α}, (∀ x ∈ xs, Quiet (f x)) →
    (∀ x ∈ xs, Named (f x)) → Named (Op.forEach xs f)
  | [], _, _ => anonymous fun _ _ h => by simp at h
  | x :: xs, hq, hn => Op.forEach_cons x xs f ▸ seq (hq x (by simp)) (hn x (by simp))
      (forEach (fun y hy => hq y (by simp [hy])) fun y hy => hn y (by simp [hy]))

/-- 操作を始める時の状態で選ぶ。 -/
theorem dep {g : Service → Op} (h : ∀ t, Named (g t)) : Named fun s => g s s := fun s => h s s

theorem ite {c : Service → Prop} [DecidablePred c] {f g : Op} (hf : Named f) (hg : Named g) :
    Named fun s => if c s then f s else g s := fun s => by
  dsimp only
  split <;> [exact hf s; exact hg s]

/-- 表を変えない書き換えの後に続ける。 -/
theorem update {f : Service → Service} {g : Op} (hc : ∀ s, (f s).contexts = s.contexts)
    (hg : Named g) : Named fun s => g (f s) := fun s => hc s ▸ hg (f s)

end Named

theorem named_skip : Named fun s => (s, []) := Named.anonymous fun _ _ h => by simp at h

/-- 見つかった session の context で報告を一つ作るか、何も出さない。 -/
theorem named_lookup (id : SessionId) {f : SessionContext → Effect}
    (hf : ∀ c, (f c).sessionContext? = some c) (b : Prop) [Decidable b] :
    Named fun s => (s, match s.sessions.lookup id with
      | some c => if b then [f c.inner] else []
      | none => []) := by
  intro s e he c hc
  dsimp only at he
  split at he
  · rename_i c' hl
    split at he <;> simp only [List.mem_singleton, List.not_mem_nil] at he
    subst he
    rw [hf] at hc
    cases hc
    exact ⟨id, contexts_of_lookup hl⟩
  · simp at he

/-! ## handler ごとの `Named` -/

theorem named_distributeToSession (o : SendOracle) : Named (distributeToSession o) := by
  intro s e he c hc
  unfold distributeToSession at he
  split at he
  · simp at he
  · simp only [List.mem_filterMap, Option.ite_none_right_eq_some, Option.some.injEq] at he
    obtain ⟨⟨id, sc⟩, hm, -, rfl⟩ := he
    cases hc
    exact ⟨id, contexts_of_lookup (AList.mem_lookup_iff.mpr hm)⟩

theorem named_pushToSession (o : SendOracle) (id : SessionId) (event : SessionEvent) :
    Named (pushToSession o id event) :=
  Named.ite (Named.update (fun s => contexts_modifyVal s id fun _ => rfl)
    (named_distributeToSession o)) named_skip

theorem named_shutdownDrain (quick : Bool) : Named (shutdownDrain quick) :=
  Named.anonymous fun s e he => by
    simp only [shutdownDrain, List.mem_map] at he
    obtain ⟨_, _, rfl⟩ := he
    rfl

theorem named_handleShutdown_graceful (o : SendOracle) : Named (handleShutdown o false) :=
  Named.seq (quiet_shutdownDrain false) (named_shutdownDrain false) <| Named.dep fun _ =>
    Named.forEach (fun i _ => quiet_sessionClose_external o i) fun i _ => named_pushToSession o i _

theorem sessionContext_report {sid : Option SessionId} {p : ProtocolId} {r : SendResult}
    {e : Effect} (h : e ∈ reportProtocolHandle sid p r) : e.sessionContext? = none := by
  cases r <;> simp [reportProtocolHandle] at h <;> subst h <;> rfl

theorem named_sendToUserLevel (o : SendOracle) : Named (sendToUserLevel o) :=
  Named.anonymous fun s e he => by
    simp only [sendToUserLevel, List.mem_append, List.mem_flatMap] at he
    rcases he with ⟨_, _, he⟩ | ⟨_, _, he⟩ <;> exact sessionContext_report he

theorem named_distributeToUserLevel (o : SendOracle) : Named (distributeToUserLevel o) :=
  Named.ite named_skip <| Named.ite
    (Named.seq (quiet_sendToUserLevel o) (named_sendToUserLevel o) (named_handleShutdown_graceful o))
    (named_sendToUserLevel o)

theorem named_protocolOpen (cfg : Config) (o : SendOracle) (id : SessionId) (p : ProtocolId)
    (v : String) : ∀ src, Named (protocolOpen cfg o id p v src)
  | .external => named_pushToSession o id _
  | .internal => named_lookup id (f := (.proto <| .connected · p v)) (fun _ => rfl) _

theorem named_protocolMessage (cfg : Config) (id : SessionId) (p : ProtocolId) (d : Bytes) :
    Named (protocolMessage cfg id p d) :=
  named_lookup id (f := (.proto <| .received · p d)) (fun _ => rfl) _

theorem named_protocolClose (cfg : Config) (o : SendOracle) (id : SessionId) (p : ProtocolId) :
    ∀ src, Named (protocolClose cfg o id p src)
  | .external => named_pushToSession o id _
  | .internal => named_lookup id (f := (.proto <| .disconnected p ·)) (fun _ => rfl) _

theorem named_reportSession (id : SessionId) {f : SessionContext → ServiceError}
    (hf : ∀ c, (Effect.error (f c)).sessionContext? = some c) :
    Named fun s => (s, ((s.sessions.lookup id).map fun c => Effect.error (f c.inner)).toList) := by
  intro s e he c hc
  cases hl : s.sessions.lookup id <;> simp only [hl, Option.map_none', Option.map_some',
    Option.toList_none, Option.toList_some, List.not_mem_nil, List.mem_singleton] at he
  subst he
  rw [hf] at hc
  cases hc
  exact ⟨id, contexts_of_lookup hl⟩

theorem named_handleMessage (o : SendOracle) (target : TargetSession) (p : ProtocolId)
    (q : Priority) (d : Bytes) : Named (handleMessage o target p q d) :=
  Named.update (f := fun s => { s with
      sessions := routeMessage target p q (applyBeforeSend s.beforeSends p d) s.sessions })
    (fun s => funext (lookup_routeMessage_inner target p q _ s.sessions))
    (named_distributeToSession o)

theorem named_sendPendingTask (o : SendOracle) : Named (sendPendingTask o) :=
  Named.anonymous fun s e he => by
    simp only [sendPendingTask, List.mem_map] at he
    obtain ⟨_, _, rfl⟩ := he
    rfl

theorem named_sendFutureTask (o : SendOracle) (t : FutureTask) : Named (sendFutureTask o t) :=
  Named.update (f := fun s => { s with futureTaskSender := s.futureTaskSender.push t })
    (fun _ => rfl) (named_sendPendingTask o)

theorem named_tryUpdateListens (o : SendOracle) : Named (tryUpdateListens o) :=
  Named.ite named_skip (Named.update (fun _ => rfl) (named_distributeToUserLevel o))

theorem named_handleListenStart (o : SendOracle) (address : Multiaddr) :
    Named (handleListenStart o address) := fun s e he c hc => by
  simp only [handleListenStart, List.mem_append, List.mem_singleton] at he
  rcases he with (rfl | he) | rfl
  · cases hc
  · exact named_tryUpdateListens o _ e he c hc
  · cases hc

theorem named_handleListenError (address : Multiaddr) (error : String) :
    Named (handleListenError address error) :=
  Named.anonymous fun s e he => by
    unfold handleListenError at he
    split at he <;> simp only [List.mem_cons, List.mem_singleton, List.not_mem_nil, or_false] at he
    · rcases he with rfl | rfl <;> rfl
    · subst he; rfl

theorem named_pushServiceProto (o : SendOracle) (p : ProtocolId) (e : ServiceProtocolEvent) :
    Named (pushServiceProto o p e) :=
  Named.ite (Named.update (fun _ => rfl) (named_distributeToUserLevel o)) named_skip

theorem named_pushSessionProto (o : SendOracle) (k : SessionId × ProtocolId)
    (e : SessionProtocolEvent) : Named (pushSessionProto o k e) :=
  Named.ite (Named.update (fun _ => rfl) (named_distributeToUserLevel o)) named_skip

theorem named_flushBuffer (o : SendOracle) : Named (flushBuffer o) :=
  Named.seq (Quiet.ite quiet_skip (quiet_distributeToSession o))
    (Named.ite named_skip (named_distributeToSession o))
    (Named.ite named_skip (named_distributeToUserLevel o))

/-- 同期に失敗した dial と listen の報告は context を運ばない。 -/
theorem named_handleDial (cfg : Config) (address : Multiaddr) (target : TargetProtocol) :
    Named (handleDial cfg address target) :=
  Named.ite named_skip <| Named.anonymous fun s e he => by
    cases hr : (dialInner cfg address target s).2 <;> simp [dialFailure, hr] at he
    subst he; rfl

theorem named_handleListen (cfg : Config) (address : Multiaddr) :
    Named (handleListen cfg address) :=
  Named.ite named_skip <| Named.anonymous fun s e he => by
    cases hr : (listenInner cfg address s).2 <;> simp [listenFailure, hr] at he
    subst he; rfl

/-- quick な shutdown のほかの user task の処理が名指す context は、どれも表にある。 -/
theorem named_handleServiceTask (cfg : Config) (o : SendOracle) (r : Priority) :
    ∀ {t : ServiceTask}, t ≠ .shutdown true → Named (handleServiceTask cfg o r t)
  | .protocolMessage target protoId data, _ => named_handleMessage o target protoId r data
  | .dial address target, _ => named_handleDial cfg address target
  | .listen address, _ => named_handleListen cfg address
  | .disconnect id, _ => named_pushToSession o id _
  | .futureTask _, _ => named_sendFutureTask o _
  | .setProtocolNotify .., _ | .removeProtocolNotify .., _ => named_pushServiceProto o _ _
  | .setProtocolSessionNotify .., _ | .removeProtocolSessionNotify .., _ =>
    named_pushSessionProto o _ _
  | .protocolOpen id .all, _ => Named.forEach (fun q _ => quiet_protocolOpen cfg o id q "" .external)
      fun q _ => named_protocolOpen cfg o id q "" .external
  | .protocolOpen id (.single q), _ => named_protocolOpen cfg o id q "" .external
  | .protocolOpen id (.multi _), _ =>
    Named.forEach (fun q _ => quiet_protocolOpen cfg o id q "" .external)
      fun q _ => named_protocolOpen cfg o id q "" .external
  | .protocolClose id protoId, _ => named_protocolClose cfg o id protoId .external
  | .shutdown false, _ => named_handleShutdown_graceful o
  | .shutdown true, ht => absurd rfl ht

/-- session を開け閉めしない event の処理が名指す context は、どれも表にある。 -/
theorem named_handleSessionEvent (cfg : Config) (o : SendOracle) {e : SessionEvent}
    (he : e.touchesSessions = false) :
    Named fun s => (handleSessionEvent cfg o e s).getD (s, []) := by
  cases e with
  | sessionClose => cases he
  | handshakeSuccess => cases he
  | handshakeError ty error address =>
    refine Named.anonymous fun s x hx => ?_
    simp only [handleSessionEvent] at hx
    split at hx <;> simp at hx
    subst hx; rfl
  | protocolMessage id protoId data => exact named_protocolMessage cfg id protoId data
  | protocolOpen id protoId version => exact named_protocolOpen cfg o id protoId version .internal
  | protocolClose id protoId => exact named_protocolClose cfg o id protoId .internal
  | protocolSelectError id protoName => exact named_reportSession id fun _ => rfl
  | protocolError _ _ _ | dialError _ _ =>
    refine Named.anonymous fun s x hx => ?_
    simp only [handleSessionEvent, Option.getD_some, List.mem_singleton] at hx
    subst hx; rfl
  | listenError address error => exact named_handleListenError address error
  | sessionTimeout id => exact named_reportSession id fun _ => rfl
  | muxerError id error => exact named_reportSession id (f := (.muxerError · error)) fun _ => rfl
  | listenStart address => exact named_handleListenStart o address
  | protocolHandleError error protoId =>
    intro s x hx c hc
    simp only [handleSessionEvent, Option.getD_some, List.mem_cons] at hx
    rcases hx with rfl | hx
    · cases hc
    · exact named_handleShutdown_graceful o s x hx c hc
  | other => exact named_skip

/-! ## session を開け閉めする処理は context を運ばない -/

theorem sessionContext_sessionClose_internal (o : SendOracle) (id : SessionId) (s : Service) :
    ∀ e ∈ (sessionClose o id .internal s).2, e.sessionContext? = none := by
  rw [sessionClose_internal_out]
  intro e he
  cases hc : s.contexts id <;> simp [hc] at he
  subst he; rfl

/-- 検査で断った `session_open` の報告は context を運ばない。 -/
theorem sessionContext_sessionOpenCheck {cfg : Config} {s : Service} {h : Handle}
    {key : Option PublicKey} {a : Multiaddr} {ty : SessionType} {l : Option Multiaddr}
    {out : List Effect} (hc : sessionOpenCheck cfg s h key a ty l = some (.error out)) :
    ∀ e ∈ out, e.sessionContext? = none := by
  unfold sessionOpenCheck at hc
  split at hc
  · cases hc
  · split at hc
    · split at hc
      · cases hc; simp
      · obtain ⟨_, _, ⟨⟩⟩ := Option.map_eq_some'.mp hc
        simp
    · split at hc
      · split at hc
        · cases hc; simp
        · cases hc
      · cases hc

theorem sessionContext_sessionOpen {cfg : Config} {h : Handle} {key : Option PublicKey}
    {a : Multiaddr} {ty : SessionType} {l : Option Multiaddr} {s s' : Service} {out : List Effect}
    (ho : sessionOpen cfg h key a ty l s = some (s', out)) : ∀ e ∈ out, e.sessionContext? = none := by
  obtain ⟨s₀, -, ⟨hc, -⟩ | ⟨a', -, ho⟩⟩ := sessionOpen_stages ho
  · exact sessionContext_sessionOpenCheck hc
  · simp only [sessionOpenInsert, Option.map_eq_some', Prod.mk.injEq] at ho
    obtain ⟨_, _, -, rfl⟩ := ho
    simp

/-- `SessionClose` と `HandshakeSuccess` の処理は context を運ばない。 -/
theorem sessionContext_handleSessionEvent {cfg : Config} {o : SendOracle} {e : SessionEvent}
    (ht : e.touchesSessions = true) {s s' : Service} {out : List Effect}
    (he : handleSessionEvent cfg o e s = some (s', out)) : ∀ x ∈ out, x.sessionContext? = none := by
  cases e with
  | sessionClose id =>
    rw [handleSessionEvent, Option.some.injEq] at he
    rw [show out = (sessionClose o id .internal s).2 by rw [he]]
    exact sessionContext_sessionClose_internal o id s
  | handshakeSuccess =>
    obtain ⟨s₁, -, ⟨-, rfl⟩ | ⟨-, ho⟩⟩ := handleHandshakeSuccess_cases he
    · simp
    · exact sessionContext_sessionOpen ho
  | _ => cases ht

/-! ## handle が受けた effect をたどる -/

/-- 一つの effect で表を進める。context を運ぶ effect は、その session が表にその context で
あるときだけ通す。ほかは `openSessionsStep` と同じ。 -/
def liveSessionsStep (m : HashMap SessionId SessionContext) (e : Effect) :
    Option (HashMap SessionId SessionContext) :=
  match e.sessionContext? with
  | some c => if m.lookup c.id = some c then some m else none
  | none => openSessionsStep m e

/-- handle が受けた effect を順にたどる。開いていない session の context を運ぶ effect と、
対にならない `SessionOpen` と `SessionClose` に出会えば `none`。 -/
def liveSessions (m : HashMap SessionId SessionContext) (l : List Effect) :
    Option (HashMap SessionId SessionContext) :=
  l.foldlM liveSessionsStep m

theorem liveSessions_append (m : HashMap SessionId SessionContext) (l₁ l₂ : List Effect) :
    liveSessions m (l₁ ++ l₂) = (liveSessions m l₁).bind (liveSessions · l₂) :=
  List.foldlM_append ..

theorem openSessionsStep_of_live {m m' : HashMap SessionId SessionContext} {e : Effect}
    (h : liveSessionsStep m e = some m') : openSessionsStep m e = some m' := by
  unfold liveSessionsStep at h
  split at h
  · split at h
    · cases h; exact openSessionsStep_of_sessionContext ‹_› m
    · cases h
  · exact h

/-- `liveSessions` でたどれれば、`openSessions` でも同じ表にたどれる。 -/
theorem openSessions_of_live : ∀ {l : List Effect} {m m' : HashMap SessionId SessionContext},
    liveSessions m l = some m' → openSessions m l = some m'
  | [], _, _, h => h
  | e :: l, m, m', h => by
    simp only [liveSessions, List.foldlM_cons, Option.bind_eq_bind, Option.bind_eq_some] at h
    obtain ⟨m₁, h₁, h⟩ := h
    simp only [openSessions, List.foldlM_cons, openSessionsStep_of_live h₁, Option.bind_eq_bind,
      Option.some_bind]
    exact openSessions_of_live h

/-- context を運ばない effect の列では、二つのたどり方は同じ。 -/
theorem liveSessions_anonymous : ∀ {l : List Effect}, (∀ e ∈ l, e.sessionContext? = none) →
    ∀ m, liveSessions m l = openSessions m l
  | [], _, _ => rfl
  | e :: l, h, m => by
    have he : liveSessionsStep m e = openSessionsStep m e := by
      simp only [liveSessionsStep, h e (List.mem_cons_self e l)]
    simp only [liveSessions, openSessions, List.foldlM_cons, he]
    cases openSessionsStep m e with
    | none => rfl
    | some m₁ => exact liveSessions_anonymous (fun x hx => h x (List.mem_cons_of_mem e hx)) m₁

/-- 開け閉めせず、表にある session の context しか運ばない effect の列は、表をそのまま通る。 -/
theorem liveSessions_quiet {m : HashMap SessionId SessionContext} :
    ∀ {l : List Effect}, (∀ e ∈ l, e.opensOrCloses = false ∧
      ∀ c, e.sessionContext? = some c → m.lookup c.id = some c) → liveSessions m l = some m
  | [], _ => rfl
  | e :: l, h => by
    have he : liveSessionsStep m e = some m := by
      obtain ⟨ho, hn⟩ := h e (List.mem_cons_self e l)
      unfold liveSessionsStep
      split
      · rw [if_pos (hn _ ‹_›)]
      · unfold openSessionsStep; split <;> first | rfl | cases ho
    simp only [liveSessions, List.foldlM_cons, he, Option.bind_eq_bind, Option.some_bind]
    exact liveSessions_quiet fun x hx => h x (List.mem_cons_of_mem e hx)

/-! ## run 全体 -/

/-- handle が受けた effect を最後までたどれて、開いていて閉じていない session がちょうど
`sessions` にある。`Paired` に、context を運ぶ effect の条件を足したもの。 -/
structure Live (s : Service) (log : List Effect) : Prop where
  /-- どの session も、自分の context の id の下にある。 -/
  ownId : ∀ id c, s.contexts id = some c → c.id = id
  replay : ∃ m, liveSessions ∅ log = some m ∧ ∀ id, m.lookup id = s.contexts id

namespace Live

variable {s s' : Service} {log out : List Effect}

theorem toPaired (h : Live s log) : Paired s log :=
  let ⟨m, hm, hlook⟩ := h.replay
  ⟨h.ownId, m, openSessions_of_live hm, hlook⟩

/-- context を運ばない effect しか足さない変化は、`Paired` が保たれれば `Live` も保つ。 -/
theorem anonymous (h : Live s log) (hp : Paired s' (log ++ out))
    (hout : ∀ e ∈ out, e.sessionContext? = none) : Live s' (log ++ out) := by
  obtain ⟨m, hm, -⟩ := h.replay
  obtain ⟨m', hm', hlook⟩ := hp.replay
  refine ⟨hp.ownId, m', ?_, hlook⟩
  rw [liveSessions_append, hm, Option.some_bind, liveSessions_anonymous hout, ← hm',
    openSessions_append, openSessions_of_live hm, Option.some_bind]

/-- 表を変えず、開け閉めせず、表にある session の context しか運ばない変化は `Live` を保つ。 -/
theorem quiet (h : Live s log) (hc : s'.contexts = s.contexts)
    (he : ∀ e ∈ out, e.opensOrCloses = false)
    (hn : ∀ e ∈ out, ∀ c, e.sessionContext? = some c → ∃ id, s.contexts id = some c) :
    Live s' (log ++ out) := by
  obtain ⟨m, hm, hlook⟩ := h.replay
  refine ⟨hc ▸ h.ownId, m, ?_, hc ▸ hlook⟩
  rw [liveSessions_append, hm, Option.some_bind]
  refine liveSessions_quiet fun e he' => ⟨he e he', fun c hc' => ?_⟩
  obtain ⟨id, hid⟩ := hn e he' c hc'
  rw [hlook, h.ownId id c hid, hid]

/-- 表を変えず、何も起こさない状態の書き換え。 -/
theorem update (h : Live s log) (hc : s'.contexts = s.contexts) : Live s' log :=
  ⟨hc ▸ h.ownId, hc ▸ h.replay⟩

theorem preserves_named {op : Op} (hq : Quiet op) (hn : Named op) : Preserves Live op :=
  fun s _ h => h.quiet (hq.contexts s) (hq.effects s) (hn s)

end Live

section Run

variable {cfg : Config} {s s' : Service} {log out : List Effect}

theorem live_sessionEvent (o : SendOracle) (e : SessionEvent)
    (he : handleSessionEvent cfg o e s = some (s', out)) (hs : Live s log) : Live s' (log ++ out) := by
  cases ht : e.touchesSessions with
  | false =>
    obtain ⟨op, hq, hop⟩ := handleSessionEvent_quiet cfg o ht
    have hn := named_handleSessionEvent cfg o ht s
    have hc := hq.contexts s
    have he' := hq.effects s
    dsimp only at hn
    rw [hop, Option.getD_some] at hn
    rw [hop, Option.some.injEq] at he
    rw [he] at hn hc he'
    exact hs.quiet hc he' hn
  | true =>
    exact hs.anonymous ((paired_stepInvariant cfg).preserves_sessionEvent o e he hs.toPaired)
      (sessionContext_handleSessionEvent ht he)

theorem live_serviceTask (o : SendOracle) (p : Priority) (t : ServiceTask) :
    Preserves Live (handleServiceTask cfg o p t) := by
  by_cases ht : t = .shutdown true
  · subst ht
    exact (Live.preserves_named (quiet_shutdownDrain true) (named_shutdownDrain true)).seq fun t =>
      Preserves.forEach (fun i _ s _ h => h.anonymous ((paired_stepInvariant cfg).close o i h.toPaired)
        (sessionContext_sessionClose_internal o i s)) t
  · exact Live.preserves_named (quiet_handleServiceTask cfg o p ht) (named_handleServiceTask cfg o p ht)

theorem live_sessionPoll (o : SendOracle) (ev : Option SessionEvent) {p : Bool}
    (hp : sessionPoll cfg o ev s = some (s', out, p)) (hs : Live s log) : Live s' (log ++ out) := by
  rcases sessionPoll_cases hp with ⟨rfl, rfl⟩ | ⟨e, -, he⟩
  · simpa using hs
  · exact live_sessionEvent o e he hs

theorem live_userTaskPoll (o : SendOracle) (task : Option (Priority × ServiceTask))
    (hs : Live s log) :
    Live (userTaskPoll cfg o task s).1 (log ++ (userTaskPoll cfg o task s).2.1) := by
  rcases userTaskPoll_cases cfg o task s with ⟨h₁, h₂⟩ | ⟨p, t, -, h₁, h₂⟩ <;> rw [h₁, h₂]
  · simpa using hs
  · exact live_serviceTask o p t s log hs

theorem live_pollNext (r : RoundInput) {res : RoundResult} (hp : pollNext cfg r s = some res)
    (hs : Live s log) : Live res.service (log ++ res.out) := by
  unfold pollNext at hp
  split at hp
  · cases hp; rw [List.append_nil]; exact hs.update rfl
  · simp only [pollBody, Option.map_map, Option.map_eq_some'] at hp
    obtain ⟨b, hb, hres⟩ := hp
    have h₀ : Live (if s.futureTaskManager then initProtoHandles cfg { s with futureTaskManager := false }
        else s) log := hs.update (by split <;> rfl)
    have h₁ := Live.preserves_named ((quiet_flushBuffer r.oracle).seq (quiet_tryUpdateListens r.oracle))
      ((named_flushBuffer r.oracle).seq (quiet_flushBuffer r.oracle) (named_tryUpdateListens r.oracle))
      _ _ h₀
    have h₂ := live_sessionPoll r.oracle r.event hb h₁
    have h₃ := @live_userTaskPoll cfg _ _ r.oracle r.task h₂
    have h₄ := Live.preserves_named (quiet_sendPendingTask r.oracle) (named_sendPendingTask r.oracle)
      _ _ h₃
    simp only [Function.comp_apply] at hres
    split at hres <;> (subst hres; simp only [List.append_assoc] at h₄ ⊢)
    · exact h₄.update rfl
    · exact h₄

theorem named_listen (address : Multiaddr) (result : Except String Multiaddr) :
    Named fun s => ((listen cfg address result s).1, (listen cfg address result s).2.1) :=
  Named.anonymous fun s e he => by
    unfold listen at he
    split at he <;> simp at he
    rcases he with rfl | rfl <;> rfl

theorem named_dial (address : Multiaddr) (target : TargetProtocol)
    (result : Except String (Multiaddr × Handle)) :
    Named fun s => ((dial cfg address target result s).1, (dial cfg address target result s).2.1) :=
  Named.anonymous fun s e he => by
    unfold dial at he
    split at he <;> simp at he
    subst he; rfl

theorem live_step (i : Input) (hst : step cfg i s = some (s', out)) (hs : Live s log) :
    Live s' (log ++ out) := by
  cases i with
  | round r =>
    simp only [step, Option.map_eq_some'] at hst
    obtain ⟨res, hres, he⟩ := hst
    cases he
    exact live_pollNext r hres hs
  | listen address result =>
    cases hst
    exact Live.preserves_named (quiet_listen cfg address result) (named_listen address result) s log hs
  | dial address target result =>
    cases hst
    exact Live.preserves_named (quiet_dial cfg address target result) (named_dial address target result)
      s log hs

theorem live_reachable {forever : Bool} (h : Reachable cfg forever s log) : Live s log := by
  induction h with
  | init => exact ⟨fun _ _ h => by simp at h, ∅, rfl, fun _ => by simp⟩
  | step i _ hst ih => exact live_step i hst ih

end Run

/-- どの run でも、handle が受けた `i` 番目の effect が session の context `c` を運ぶなら、
その前の `i` 個をたどった時点で `c` の session は開いていて閉じておらず、表にある context は
`c` そのものである。`handle_proto` と `handle_error` は、`SessionOpen` を受ける前の session
についても、`SessionClose` を受けた後の session についても呼ばれない。 -/
theorem sessionReports_live {cfg : Config} {forever : Bool} {s : Service} {log : List Effect}
    (h : Reachable cfg forever s log) {i : Nat} {e : Effect} {c : SessionContext}
    (he : log[i]? = some e) (hc : e.sessionContext? = some c) :
    ∃ m, openSessions ∅ (log.take i) = some m ∧ m.lookup c.id = some c := by
  obtain ⟨m, hm, -⟩ := (live_reachable h).replay
  obtain ⟨hi, rfl⟩ := List.getElem?_eq_some_iff.mp he
  rw [← List.take_append_drop i log, List.drop_eq_getElem_cons hi, liveSessions_append] at hm
  obtain ⟨m₁, h₁, hm⟩ := Option.bind_eq_some.mp hm
  refine ⟨m₁, openSessions_of_live h₁, ?_⟩
  simp only [liveSessions, List.foldlM_cons, liveSessionsStep, hc, Option.bind_eq_bind] at hm
  split at hm
  · assumption
  · simp at hm

/-- 例の run の後で、開いている session が `SessionTimeout` を送る。 -/
def timeoutTrace : List WorldInput :=
  demoTrace ++ [.round (some (1, .report (.sessionTimeout 1))) none .ok]

def timeoutWorld : World := ((World.init false).run demoConfig timeoutTrace).getD (World.init false)

theorem timeoutWorld_reachable : WorldReachable demoConfig false timeoutWorld :=
  @WorldReachable.run _ _ (World.init false) _ timeoutTrace .init rfl

/-- 例の run で handle が受ける `SessionTimeout` は、開いている session の context を運ぶ。 -/
theorem sessionReports_live_demo :
    timeoutWorld.log[4]? =
      some (.error (.sessionTimeout ⟨1, [.ip4 2, .tcp 5000, .p2p [2]], .inbound, some ⟨[2]⟩⟩)) ∧
    ∃ m, openSessions ∅ (timeoutWorld.log.take 4) = some m ∧
      m.lookup 1 = some ⟨1, [.ip4 2, .tcp 5000, .p2p [2]], .inbound, some ⟨[2]⟩⟩ :=
  have h4 : timeoutWorld.log[4]? =
      some (.error (.sessionTimeout ⟨1, [.ip4 2, .tcp 5000, .p2p [2]], .inbound, some ⟨[2]⟩⟩)) := by
    decide
  ⟨h4, sessionReports_live timeoutWorld_reachable.reachable h4 rfl⟩

end Tentacle
