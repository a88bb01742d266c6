import Tentacle.Properties.Step

/-!
# service が自分で持つ表

session の表のほかに、service は listen address の表（`listens`）、service の handler の
buffer（`service_proto_handles`）、`before_sends` を持つ。ふつうの操作はこれらに触れない。
触れるのは次の所だけである。

* `shutdown_drain` — listen を全部閉じて `ListenClose` を出し、`quick` なら handler の buffer を捨てる
* `ListenStart` の分岐と公開の `listen` — address を一つ足して `ListenStarted` を出す
* `ListenError` の分岐 — 動いていた listener の address を外して `ListenClose` を出す
* `init_proto_handles` — 最初の巡で一度だけ、handler の buffer と `before_send` を作る

`Calm` はそれ以外の操作の footprint で、`TableInvariant` はこの五つの場合に保たれる条件である。
`TableInvariant.reachable` で、run のどの時点でも成り立つ。

* `listenView_reachable` — handle に届いた `ListenStarted` と `ListenClose` を順にたどると、
  ちょうど `listens` になる。`ListenClose` はいつも、その時に見えている address について来る
* `protocolTables_reachable` — handler の buffer と `before_send` は、最初の巡から protocol の
  設定の通りにある
-/

namespace Tentacle

/-! ## 表と footprint -/

/-- service が自分で持つ表。handler の buffer は key だけを見る。`shutdown` は state の
shutdown（`pre_shutdown` が立てるもの）。 -/
structure Tables where
  listens : HashSet Multiaddr
  handlers : List ProtocolId
  beforeSends : HashMap ProtocolId (Bytes → Bytes)
  futureTaskManager : Bool
  receiverClosed : Bool
  shutdown : Bool

/-- service の表。 -/
def Service.tables (s : Service) : Tables :=
  ⟨s.listens, s.serviceProtoHandles.keys, s.beforeSends, s.futureTaskManager,
    s.sessionEventReceiverClosed, s.state.shutdown⟩

/-- handle に listen address の出入りを知らせる event。 -/
def Effect.isListenEvent : Effect → Bool
  | .event (.listenStarted _) | .event (.listenClose _) => true
  | _ => false

/-- 表を変えず、listen の event を出さない操作。 -/
structure Calm (op : Op) : Prop where
  tables : ∀ s, (op s).1.tables = s.tables
  silent : ∀ s, ∀ e ∈ (op s).2, e.isListenEvent = false

namespace Calm

theorem seq {f g : Op} (hf : Calm f) (hg : Calm g) : Calm (Op.seq f g) where
  tables s := by rw [Op.seq_fst, hg.tables, hf.tables]
  silent s e h := by
    rcases List.mem_append.mp h with h | h
    · exact hf.silent s e h
    · exact hg.silent _ e h

theorem forEach {α : Type} {f : α → Op} : ∀ {xs : List α}, (∀ x ∈ xs, Calm (f x)) →
    Calm (Op.forEach xs f)
  | [], _ => ⟨fun _ => rfl, fun _ _ h => by simp at h⟩
  | x :: xs, h => Op.forEach_cons x xs f ▸ (h x (by simp)).seq (forEach fun y hy => h y (by simp [hy]))

/-- 状態を変えず、listen の event でないものだけを出す操作。 -/
theorem emit {out : Service → List Effect} (h : ∀ s, ∀ e ∈ out s, e.isListenEvent = false) :
    Calm fun s => (s, out s) :=
  ⟨fun _ => rfl, h⟩

/-- 表に触れない書き換えだけをし、何も起こさない操作。 -/
theorem of_update {f : Service → Service} (h : ∀ s, (f s).tables = s.tables) :
    Calm fun s => (f s, []) :=
  ⟨h, fun _ _ h => by simp at h⟩

theorem ite {c : Service → Prop} [DecidablePred c] {f g : Op} (hf : Calm f) (hg : Calm g) :
    Calm fun s => if c s then f s else g s where
  tables s := by split <;> [exact hf.tables s; exact hg.tables s]
  silent s := by split <;> [exact hf.silent s; exact hg.silent s]

end Calm

theorem calm_skip : Calm fun s => (s, []) := Calm.emit fun _ _ h => by simp at h

/-- error の報告は listen の event ではない。 -/
@[simp] theorem isListenEvent_error (e : ServiceError) : (Effect.error e).isListenEvent = false := rfl

@[simp] theorem isListenEvent_spawn (t : FutureTask) : (Effect.spawn t).isListenEvent = false := rfl

/-! ## 表に触れない操作 -/

theorem calm_distributeToSession (o : SendOracle) : Calm (distributeToSession o) where
  tables s := by unfold distributeToSession; split <;> rfl
  silent s e h := by
    unfold distributeToSession at h
    split at h
    · simp at h
    · simp only [List.mem_filterMap, Option.ite_none_right_eq_some, Option.some.injEq] at h
      obtain ⟨_, _, _, rfl⟩ := h
      rfl

theorem calm_pushToSession (o : SendOracle) (id : SessionId) (event : SessionEvent) :
    Calm (pushToSession o id event) :=
  Calm.ite ((Calm.of_update (f := fun s => { s with
      sessions := s.sessions.modifyVal id (·.push .high event) }) fun _ => rfl).seq
    (calm_distributeToSession o)) calm_skip

theorem calm_sessionClose (o : SendOracle) (id : SessionId) : ∀ src, Calm (sessionClose o id src)
  | .external => calm_pushToSession o id _
  | .internal => ⟨fun s => by simp only [sessionClose]; split <;> rfl, fun s e h => by
      rw [sessionClose_internal_out] at h
      cases hc : s.contexts id <;> simp [hc] at h
      subst h; rfl⟩

theorem isListenEvent_report {sid : Option SessionId} {p : ProtocolId} {r : SendResult}
    {e : Effect} (h : e ∈ reportProtocolHandle sid p r) : e.isListenEvent = false := by
  cases r <;> simp [reportProtocolHandle] at h <;> subst h <;> rfl

theorem calm_sendToUserLevel (o : SendOracle) : Calm (sendToUserLevel o) where
  tables s := by simp [sendToUserLevel, Service.tables]
  silent s e h := by
    simp only [sendToUserLevel, List.mem_append, List.mem_flatMap] at h
    rcases h with ⟨_, _, h⟩ | ⟨_, _, h⟩ <;> exact isListenEvent_report h

theorem calm_protocolOpen (cfg : Config) (o : SendOracle) (id : SessionId) (p : ProtocolId)
    (v : String) : ∀ src, Calm (protocolOpen cfg o id p v src)
  | .external => calm_pushToSession o id _
  | .internal => Calm.emit fun s e h => by
    split at h <;> simp at h
    obtain ⟨-, rfl⟩ := h
    rfl

theorem calm_protocolMessage (cfg : Config) (id : SessionId) (p : ProtocolId) (d : Bytes) :
    Calm (protocolMessage cfg id p d) :=
  Calm.emit fun s e h => by
    split at h <;> simp at h
    obtain ⟨-, rfl⟩ := h
    rfl

theorem calm_protocolClose (cfg : Config) (o : SendOracle) (id : SessionId) (p : ProtocolId) :
    ∀ src, Calm (protocolClose cfg o id p src)
  | .external => calm_pushToSession o id _
  | .internal => ⟨fun _ => rfl, fun s e h => by
    simp only [protocolClose] at h
    split at h <;> simp at h
    obtain ⟨-, rfl⟩ := h
    rfl⟩

theorem calm_handleMessage (o : SendOracle) (target : TargetSession) (p : ProtocolId)
    (q : Priority) (d : Bytes) : Calm (handleMessage o target p q d) :=
  (Calm.of_update (f := fun s => { s with
      sessions := routeMessage target p q (applyBeforeSend s.beforeSends p d) s.sessions })
    fun _ => rfl).seq (calm_distributeToSession o)

theorem calm_sendPendingTask (o : SendOracle) : Calm (sendPendingTask o) where
  tables _ := rfl
  silent s e h := by
    simp only [sendPendingTask, List.mem_map] at h
    obtain ⟨_, _, rfl⟩ := h
    rfl

theorem calm_sendFutureTask (o : SendOracle) (t : FutureTask) : Calm (sendFutureTask o t) :=
  (Calm.of_update (f := fun s => { s with futureTaskSender := s.futureTaskSender.push t })
    fun _ => rfl).seq (calm_sendPendingTask o)

theorem calm_handleDial (cfg : Config) (address : Multiaddr) (target : TargetProtocol) :
    Calm (handleDial cfg address target) :=
  Calm.ite calm_skip ⟨fun s => by simp only [dialInner]; split <;> rfl, fun s e h => by
    cases hr : (dialInner cfg address target s).2 <;> simp [dialFailure, hr] at h
    subst h; rfl⟩

theorem calm_handleListen (cfg : Config) (address : Multiaddr) :
    Calm (handleListen cfg address) :=
  Calm.ite calm_skip ⟨fun s => by simp only [listenInner]; split <;> rfl, fun s e h => by
    cases hr : (listenInner cfg address s).2 <;> simp [listenFailure, hr] at h
    subst h; rfl⟩

/-- `session_open` は、断っても session を開いても表に触れず、listen の event を出さない。 -/
theorem sessionOpen_calm {cfg : Config} {h : Handle} {key : Option PublicKey} {a : Multiaddr}
    {ty : SessionType} {l : Option Multiaddr} {s s' : Service} {out : List Effect}
    (ho : sessionOpen cfg h key a ty l s = some (s', out)) :
    s'.tables = s.tables ∧ ∀ e ∈ out, e.isListenEvent = false := by
  obtain ⟨s₀, rfl, ⟨hc, rfl⟩ | ⟨a', -, ho⟩⟩ := sessionOpen_stages ho
  · refine ⟨rfl, fun e he => ?_⟩
    rcases sessionOpenCheck_error hc e he with rfl | ⟨_, rfl⟩ <;> rfl
  · simp only [sessionOpenInsert, Option.map_eq_some', Prod.mk.injEq] at ho
    obtain ⟨s₁, hg, rfl, rfl⟩ := ho
    obtain ⟨hs₁, -⟩ := generateNextSession_spec hg
    refine ⟨?_, by simp [Effect.isListenEvent]⟩
    rw [hs₁]; unfold sessionHandlesOpen; split <;> rfl

/-! ## 表の不変条件 -/

/-- 五つの場合に保たれる表の条件。`Inv t log` は、表が `t` で、それまでに外に起こしたことが
`log` であること。 -/
structure TableInvariant (cfg : Config) (Inv : Tables → List Effect → Prop) : Prop where
  calm {t : Tables} {log out : List Effect} : Inv t log → (∀ e ∈ out, e.isListenEvent = false) →
    Inv t (log ++ out)
  drain (quick : Bool) {s : Service} {log : List Effect} : Inv s.tables log →
    Inv (shutdownDrain quick s).1.tables (log ++ (shutdownDrain quick s).2)
  listenStarted (a : Multiaddr) {t : Tables} {log : List Effect} : Inv t log →
    Inv { t with listens := t.listens.insert a () } (log ++ [.event (.listenStarted a)])
  listenClose (a : Multiaddr) {t : Tables} {log : List Effect} : a ∈ t.listens → Inv t log →
    Inv { t with listens := t.listens.erase a } (log ++ [.event (.listenClose a)])
  init {s : Service} {log : List Effect} : Inv s.tables log → s.futureTaskManager = true →
    Inv (initProtoHandles cfg { s with futureTaskManager := false }).tables log

theorem Preserves.ite {Inv : Service → List Effect → Prop} {c : Service → Prop} [DecidablePred c]
    {f g : Op} (hf : Preserves Inv f) (hg : Preserves Inv g) :
    Preserves Inv fun s => if c s then f s else g s := fun s log h => by
  dsimp only
  split <;> [exact hf s log h; exact hg s log h]

/-- 一つの操作を行うだけの分岐。 -/
theorem Preserves.of_some {Inv : Service → List Effect → Prop} {op : Op} (hp : Preserves Inv op)
    {s s' : Service} {log out : List Effect} (h : some (op s) = some (s', out)) (hs : Inv s log) :
    Inv s' (log ++ out) := by
  have := hp s log hs
  rwa [Option.some.inj h] at this

/-- 表の上の条件を、状態の上の条件として見る。 -/
abbrev OnTables (Inv : Tables → List Effect → Prop) (s : Service) (log : List Effect) : Prop :=
  Inv s.tables log

namespace TableInvariant

variable {cfg : Config} {Inv : Tables → List Effect → Prop} (hI : TableInvariant cfg Inv)
include hI

/-- listen の event でない effect を一つ出す。 -/
theorem calm_one {t : Tables} {log : List Effect} {e : Effect} (hs : Inv t log)
    (he : e.isListenEvent = false) : Inv t (log ++ [e]) :=
  hI.calm hs fun _ h => List.mem_singleton.mp h ▸ he

theorem preserves_calm {op : Op} (h : Calm op) : Preserves (OnTables Inv) op := fun s _ hs => by
  show Inv (op s).1.tables _
  rw [h.tables]
  exact hI.calm hs (h.silent s)

theorem preserves_shutdown (o : SendOracle) (quick : Bool) :
    Preserves (OnTables Inv) (handleShutdown o quick) :=
  Preserves.seq (fun _ _ hs => hI.drain quick hs) fun t =>
    Preserves.forEach (f := fun i => sessionClose o i (if quick then .internal else .external))
      (fun i _ => hI.preserves_calm (calm_sessionClose o i _)) t

theorem preserves_distributeToUserLevel (o : SendOracle) :
    Preserves (OnTables Inv) (distributeToUserLevel o) :=
  Preserves.ite (hI.preserves_calm calm_skip) <| Preserves.ite
    ((hI.preserves_calm (calm_sendToUserLevel o)).seq (hI.preserves_shutdown o false))
    (hI.preserves_calm (calm_sendToUserLevel o))

theorem preserves_tryUpdateListens (o : SendOracle) :
    Preserves (OnTables Inv) (tryUpdateListens o) :=
  Preserves.ite (hI.preserves_calm calm_skip) <| (hI.preserves_calm (Calm.of_update
    (f := fun s => { s with
      serviceContextListens := s.listens.keys
      serviceProtoHandles := s.serviceProtoHandles.mapVal fun _ b => b.push (.update s.listens.keys)
      sessionProtoHandles := s.sessionProtoHandles.mapVal fun _ b => b.push (.update s.listens.keys) })
    fun _ => by simp [Service.tables])).seq (hI.preserves_distributeToUserLevel o)

theorem preserves_pushServiceProto (o : SendOracle) (p : ProtocolId) (e : ServiceProtocolEvent) :
    Preserves (OnTables Inv) (pushServiceProto o p e) :=
  Preserves.ite ((hI.preserves_calm (Calm.of_update (f := fun s => { s with
      serviceProtoHandles := s.serviceProtoHandles.modifyVal p (·.push e) })
    fun _ => by simp [Service.tables, AList.modifyVal])).seq (hI.preserves_distributeToUserLevel o))
    (hI.preserves_calm calm_skip)

theorem preserves_pushSessionProto (o : SendOracle) (k : SessionId × ProtocolId)
    (e : SessionProtocolEvent) : Preserves (OnTables Inv) (pushSessionProto o k e) :=
  Preserves.ite ((hI.preserves_calm (Calm.of_update (f := fun s => { s with
      sessionProtoHandles := s.sessionProtoHandles.modifyVal k (·.push e) }) fun _ => rfl)).seq
    (hI.preserves_distributeToUserLevel o)) (hI.preserves_calm calm_skip)

theorem preserves_serviceTask (o : SendOracle) (p : Priority) :
    ∀ t, Preserves (OnTables Inv) (handleServiceTask cfg o p t)
  | .protocolMessage target protoId data => hI.preserves_calm (calm_handleMessage o target protoId p data)
  | .dial address target => hI.preserves_calm (calm_handleDial cfg address target)
  | .listen address => hI.preserves_calm (calm_handleListen cfg address)
  | .disconnect id => hI.preserves_calm (calm_sessionClose o id .external)
  | .futureTask _ => hI.preserves_calm (calm_sendFutureTask o _)
  | .setProtocolNotify .. | .removeProtocolNotify .. => hI.preserves_pushServiceProto o _ _
  | .setProtocolSessionNotify .. | .removeProtocolSessionNotify .. => hI.preserves_pushSessionProto o _ _
  | .protocolOpen id .all =>
    hI.preserves_calm (Calm.forEach fun x _ => calm_protocolOpen cfg o id x "" _)
  | .protocolOpen id (.single x) => hI.preserves_calm (calm_protocolOpen cfg o id x "" .external)
  | .protocolOpen id (.multi _) =>
    hI.preserves_calm (Calm.forEach fun x _ => calm_protocolOpen cfg o id x "" _)
  | .protocolClose id x => hI.preserves_calm (calm_protocolClose cfg o id x .external)
  | .shutdown quick => hI.preserves_shutdown o quick

theorem preserves_handleListenError (address : Multiaddr) (error : String) :
    Preserves (OnTables Inv) (handleListenError address error) := fun s log hs => by
  unfold handleListenError
  split
  · -- 動いていた listener が止まった
    have := hI.listenClose address ‹_›
      (hI.calm_one hs (e := .error (.listenError address (.transportError error))) rfl)
    simpa only [List.append_assoc, List.singleton_append] using this
  · exact hI.calm hs (by simp)

theorem preserves_handleListenStart (o : SendOracle) (address : Multiaddr) :
    Preserves (OnTables Inv) (handleListenStart o address) := fun s log hs => by
  have := hI.preserves_tryUpdateListens o
    { s with listens := s.listens.insert address (), state := s.state.decrease } _
    (hI.listenStarted address hs)
  simpa only [handleListenStart, List.append_assoc] using
    hI.calm_one this (e := .spawn (.listener address)) rfl

theorem preserves_sessionEvent (o : SendOracle) (e : SessionEvent) {s s' : Service}
    {log out : List Effect} (he : handleSessionEvent cfg o e s = some (s', out))
    (hs : Inv s.tables log) : Inv s'.tables (log ++ out) := by
  cases e with
  | sessionClose id => exact (hI.preserves_calm (calm_sessionClose o id .internal)).of_some he hs
  | handshakeSuccess handle key address ty l =>
    obtain ⟨s₁, hs₁, h⟩ := handleHandshakeSuccess_cases he
    -- pending を減らすだけの書き換えは表に触れない
    have ht : s₁.tables = s.tables := by rw [hs₁]; split <;> rfl
    rcases h with ⟨rfl, rfl⟩ | ⟨-, ho⟩
    · rw [List.append_nil, ht]; exact hs
    · obtain ⟨ht', hq⟩ := sessionOpen_calm ho
      rw [ht', ht]
      exact hI.calm hs hq
  | handshakeError ty error address =>
    simp only [handleSessionEvent] at he
    split at he <;> cases he
    · exact hI.calm hs (by simp)
    · simpa using hs
  | protocolMessage id protoId data =>
    exact (hI.preserves_calm (calm_protocolMessage cfg id protoId data)).of_some he hs
  | protocolOpen id protoId version =>
    exact (hI.preserves_calm (calm_protocolOpen cfg o id protoId version .internal)).of_some he hs
  | protocolClose id protoId =>
    exact (hI.preserves_calm (calm_protocolClose cfg o id protoId .internal)).of_some he hs
  | listenError address error => exact (hI.preserves_handleListenError address error).of_some he hs
  | listenStart address => exact (hI.preserves_handleListenStart o address).of_some he hs
  | protocolHandleError error protoId =>
    simp only [handleSessionEvent, Option.some.injEq, Prod.mk.injEq] at he
    obtain ⟨rfl, rfl⟩ := he
    simpa using hI.preserves_shutdown o false s _
      (hI.calm_one hs (e := .error (.protocolHandleError protoId error)) rfl)
  | other =>
    simp only [handleSessionEvent, Option.some.injEq, Prod.mk.injEq] at he
    obtain ⟨rfl, rfl⟩ := he
    simpa using hs
  | _ =>
    simp only [handleSessionEvent, Option.some.injEq, Prod.mk.injEq] at he
    obtain ⟨rfl, rfl⟩ := he
    exact hI.calm hs (by simp)

theorem preserves_sessionPoll (o : SendOracle) (ev : Option SessionEvent) {s s' : Service}
    {log out : List Effect} {p : Bool} (hp : sessionPoll cfg o ev s = some (s', out, p))
    (hs : Inv s.tables log) : Inv s'.tables (log ++ out) := by
  rcases sessionPoll_cases hp with ⟨rfl, rfl⟩ | ⟨e, -, he⟩
  · simpa using hs
  · exact hI.preserves_sessionEvent o e he hs

theorem preserves_userTaskPoll (o : SendOracle) (task : Option (Priority × ServiceTask))
    {s : Service} {log : List Effect} (hs : Inv s.tables log) :
    Inv (userTaskPoll cfg o task s).1.tables (log ++ (userTaskPoll cfg o task s).2.1) := by
  rcases userTaskPoll_cases cfg o task s with ⟨h₁, h₂⟩ | ⟨p, t, -, h₁, h₂⟩ <;> rw [h₁, h₂]
  · simpa using hs
  · exact hI.preserves_serviceTask o p t s log hs

theorem preserves_flushBuffer (o : SendOracle) : Preserves (OnTables Inv) (flushBuffer o) :=
  (Preserves.ite (hI.preserves_calm calm_skip) (hI.preserves_calm (calm_distributeToSession o))).seq
    (Preserves.ite (hI.preserves_calm calm_skip) (hI.preserves_distributeToUserLevel o))

theorem preserves_pollNext (r : RoundInput) {s : Service} {log : List Effect} {res : RoundResult}
    (hp : pollNext cfg r s = some res) (hs : Inv s.tables log) :
    Inv res.service.tables (log ++ res.out) := by
  unfold pollNext at hp
  split at hp
  · cases hp; simpa using hs
  · simp only [pollBody, Option.map_map, Option.map_eq_some'] at hp
    obtain ⟨b, hb, hres⟩ := hp
    have h₀ : Inv (if s.futureTaskManager then initProtoHandles cfg { s with futureTaskManager := false }
        else s).tables log := by
      split
      · exact hI.init hs ‹_›
      · exact hs
    have h₁ := ((hI.preserves_flushBuffer r.oracle).seq (hI.preserves_tryUpdateListens r.oracle)) _ _ h₀
    have h₂ := hI.preserves_sessionPoll r.oracle r.event hb h₁
    have h₃ := hI.preserves_userTaskPoll r.oracle r.task h₂
    have h₄ := hI.preserves_calm (calm_sendPendingTask r.oracle) _ _ h₃
    simp only [Function.comp_apply] at hres
    split at hres <;> (subst hres; simp only [List.append_assoc] at h₄ ⊢) <;> exact h₄

theorem preserves_listen (address : Multiaddr) (result : Except String Multiaddr) {s : Service}
    {log : List Effect} (hs : Inv s.tables log) :
    Inv (listen cfg address result s).1.tables (log ++ (listen cfg address result s).2.1) := by
  unfold listen
  split
  · simpa using hs
  · simpa using hs
  · simpa only [List.append_assoc, List.singleton_append] using
      hI.calm_one (hI.listenStarted _ hs) (e := .spawn (.listener _)) rfl

theorem preserves_step (i : Input) {s s' : Service} {log out : List Effect}
    (hst : step cfg i s = some (s', out)) (hs : Inv s.tables log) : Inv s'.tables (log ++ out) := by
  cases i with
  | round r =>
    simp only [step, Option.map_eq_some'] at hst
    obtain ⟨res, hres, he⟩ := hst
    cases he
    exact hI.preserves_pollNext r hres hs
  | listen address result => cases hst; exact hI.preserves_listen address result hs
  | dial address target result =>
    cases hst
    unfold dial
    split
    · simpa using hs
    · simpa using hs
    · exact hI.calm hs (by simp)

/-- 初めに成り立つ `TableInvariant` は、run のどの時点でも成り立つ。 -/
theorem reachable {forever : Bool} (h₀ : Inv (Service.new forever).tables []) {s : Service}
    {log : List Effect} (h : Reachable cfg forever s log) : Inv s.tables log := by
  induction h with
  | init => exact h₀
  | step i _ hst ih => exact hI.preserves_step i hst ih

end TableInvariant

/-! ## handle から見た listen address -/

/-- handle が listen の event を一つ受けたときの、listen address の集合の変化。`ListenClose` は
見えている address について来るはずで、そうでなければ `none`。 -/
def listenViewStep (m : HashSet Multiaddr) : Effect → Option (HashSet Multiaddr)
  | .event (.listenStarted a) => some (m.insert a ())
  | .event (.listenClose a) => if a ∈ m then some (m.erase a) else none
  | _ => some m

/-- handle に届いた event の列から組み立てた listen address の集合。 -/
def listenView (log : List Effect) : Option (HashSet Multiaddr) := log.foldlM listenViewStep ∅

theorem listenView_append (log out : List Effect) :
    listenView (log ++ out) = listenView log >>= fun m => out.foldlM listenViewStep m :=
  List.foldlM_append ..

theorem foldlM_listenViewStep_silent (m : HashSet Multiaddr) :
    ∀ {out : List Effect}, (∀ e ∈ out, e.isListenEvent = false) → out.foldlM listenViewStep m = some m
  | [], _ => rfl
  | e :: out, h => by
    have he : listenViewStep m e = some m := by
      have := h e (List.mem_cons_self _ _)
      unfold listenViewStep
      split <;> first | rfl | cases this
    rw [List.foldlM_cons, he]
    exact foldlM_listenViewStep_silent m fun e' h' => h e' (List.mem_cons_of_mem _ h')

/-- 表にある address を順に全部閉じると、見えている address は無くなる。 -/
theorem foldlM_listenClose_keys : ∀ (l : List (Σ _ : Multiaddr, Unit)) (h : l.NodupKeys),
    ((⟨l, h⟩ : HashSet Multiaddr).keys.map fun a => Effect.event (.listenClose a)).foldlM
      listenViewStep ⟨l, h⟩ = some ∅
  | [], _ => rfl
  | ⟨a, ()⟩ :: l, h => by
    have ha : a ∈ (⟨⟨a, ()⟩ :: l, h⟩ : HashSet Multiaddr) := AList.mem_keys.mpr (List.mem_cons_self _ _)
    have he : (⟨⟨a, ()⟩ :: l, h⟩ : HashSet Multiaddr).erase a = ⟨l, (List.nodupKeys_cons.mp h).2⟩ :=
      AList.ext (List.kerase_cons_eq rfl)
    simp only [AList.keys, List.keys_cons, List.map_cons, List.foldlM_cons, listenViewStep, if_pos ha,
      he]
    exact foldlM_listenClose_keys l _

theorem listenView_invariant (cfg : Config) :
    TableInvariant cfg fun t log => listenView log = some t.listens where
  calm h hout := by rw [listenView_append, h]; exact foldlM_listenViewStep_silent _ hout
  drain quick s log h := by
    have hl : (shutdownDrain quick s).1.tables.listens = ∅ := by
      simp only [shutdownDrain]; split <;> rfl
    rw [listenView_append, h, hl]
    exact foldlM_listenClose_keys s.listens.entries s.listens.nodupKeys
  listenStarted a t log h := by rw [listenView_append, h]; rfl
  listenClose a t log ha h := by
    rw [listenView_append, h]
    simp [listenViewStep, ha]
  init h _ := h

/-- handle に届いた `ListenStarted` と `ListenClose` を順にたどると、どの時点でもちょうど
`listens` になる。途中の `ListenClose` はどれも、その時に見えている address についてである。 -/
theorem listenView_reachable {cfg : Config} {forever : Bool} {s : Service} {log : List Effect}
    (h : Reachable cfg forever s log) : listenView log = some s.listens :=
  (listenView_invariant cfg).reachable rfl h

/-- 例：作ったばかりの service が `/ip4/1/tcp/80` で listen した後。 -/
theorem listenView_listen :
    listenView [.event (.listenStarted [.ip4 1, .tcp 80]), .spawn (.listener [.ip4 1, .tcp 80])] =
      some ((∅ : HashSet Multiaddr).insert [.ip4 1, .tcp 80] ()) :=
  listenView_reachable
    (Reachable.step (.listen [.ip4 1, .tcp 80] (.ok [.ip4 1, .tcp 80]))
      (.init : Reachable demoConfig false _ _) rfl)

/-! ## handler の buffer と before_send -/

/-- service の handler を持つ protocol。`init_proto_handles` が buffer を作るもの。 -/
def serviceHandleProtocols (cfg : Config) : List ProtocolId :=
  (cfg.protocolConfigs.entries.filter fun e => e.2.serviceHandle.isCallback).map (·.1)

/-- service の handler の buffer と `before_send` の表が、protocol の設定の通りであること。 -/
structure ProtocolTables (cfg : Config) (t : Tables) : Prop where
  /-- buffer があるのは、service の handler を持つ protocol だけ。 -/
  handlers : ∀ p ∈ t.handlers, p ∈ serviceHandleProtocols cfg
  /-- 最初の巡の前は、どちらの表も空。 -/
  fresh : t.futureTaskManager = true → t.handlers = [] ∧ ∀ p, t.beforeSends.lookup p = none
  /-- 最初の巡から quick な shutdown まで、service の handler を持つ protocol には buffer がある。 -/
  complete : t.futureTaskManager = false → t.receiverClosed = false →
    ∀ p ∈ serviceHandleProtocols cfg, p ∈ t.handlers
  /-- 最初の巡から、各 protocol の `before_send` は設定のもの。 -/
  beforeSends : t.futureTaskManager = false →
    ∀ p, t.beforeSends.lookup p = (cfg.protocolConfigs.lookup p).bind (·.beforeSend)

theorem mem_foldl_insert_new {β : Type} (b : β) :
    ∀ (l : List (Σ _ : ProtocolId, ProtocolMeta)) (m : HashMap ProtocolId β) (p : ProtocolId),
      p ∈ l.foldl (fun m e => m.insert e.1 b) m ↔ p ∈ m ∨ p ∈ l.map (·.1)
  | [], m, p => by simp
  | e :: l, m, p => by
    rw [List.foldl_cons, mem_foldl_insert_new b l, AList.mem_insert]
    simp only [List.map_cons, List.mem_cons]
    tauto

theorem lookup_foldl_beforeSend (p : ProtocolId) :
    ∀ (l : List (Σ _ : ProtocolId, ProtocolMeta)) (m : HashMap ProtocolId (Bytes → Bytes)),
      l.NodupKeys → (l.foldl (fun m e => match e.2.beforeSend with
        | some f => m.insert e.1 f
        | none => m) m).lookup p = ((l.dlookup p).bind (·.beforeSend)).or (m.lookup p)
  | [], m, _ => rfl
  | ⟨q, meta⟩ :: l, m, h => by
    obtain ⟨hq, hl⟩ := List.nodupKeys_cons.mp h
    rw [List.foldl_cons, lookup_foldl_beforeSend p l _ hl]
    by_cases hp : p = q
    · subst hp
      rw [List.dlookup_eq_none.mpr hq, List.dlookup_cons_eq]
      cases hb : meta.beforeSend <;> simp [hb]
    · rw [List.dlookup_cons_ne l ⟨q, meta⟩ hp]
      cases hb : meta.beforeSend <;> simp [hb, AList.lookup_insert_ne hp]

theorem protocolTables_invariant (cfg : Config) :
    TableInvariant cfg fun t _ => ProtocolTables cfg t where
  calm h _ := h
  drain quick s log h := by
    cases quick
    · exact ⟨h.handlers, h.fresh, h.complete, h.beforeSends⟩
    · exact ⟨nofun, fun hf => ⟨rfl, (h.fresh hf).2⟩, fun _ => nofun, h.beforeSends⟩
  listenStarted _ _ _ h := ⟨h.handlers, h.fresh, h.complete, h.beforeSends⟩
  listenClose _ _ _ _ h := ⟨h.handlers, h.fresh, h.complete, h.beforeSends⟩
  init {s} _ h hf := by
    obtain ⟨hnone, hsend⟩ := h.fresh hf
    have hkeys : s.serviceProtoHandles.keys = [] := hnone
    have hmem : ∀ p, p ∈ (initProtoHandles cfg { s with futureTaskManager := false }).serviceProtoHandles ↔
        p ∈ serviceHandleProtocols cfg := fun p => by
      have : p ∉ s.serviceProtoHandles := fun hp => by
        have := AList.mem_keys.mp hp
        rw [hkeys] at this
        cases this
      dsimp only [initProtoHandles]
      rw [mem_foldl_insert_new]
      exact or_iff_right this
    refine ⟨fun p hp => (hmem p).mp (AList.mem_keys.mpr hp), nofun,
      fun _ _ p hp => AList.mem_keys.mp ((hmem p).mpr hp), fun _ p => ?_⟩
    refine (lookup_foldl_beforeSend p _ s.beforeSends cfg.protocolConfigs.nodupKeys).trans ?_
    rw [show s.beforeSends.lookup p = none from hsend p, Option.or_none]
    rfl

theorem protocolTables_new (cfg : Config) (forever : Bool) :
    ProtocolTables cfg (Service.new forever).tables :=
  ⟨nofun, fun _ => ⟨rfl, fun _ => rfl⟩, nofun, nofun⟩

/-- service の handler の buffer と `before_send` の表は、どの時点でも protocol の設定の通りに
ある。最初の巡の前はどちらも空で、最初の巡の `init_proto_handles` から、buffer は service の
handler を持つ protocol ごとに一つずつ、`before_send` は各 protocol に設定されたものになる。
buffer は quick な shutdown が捨てるまで残る。 -/
theorem protocolTables_reachable {cfg : Config} {forever : Bool} {s : Service} {log : List Effect}
    (h : Reachable cfg forever s log) : ProtocolTables cfg s.tables :=
  (protocolTables_invariant cfg).reachable (protocolTables_new cfg forever) h

/-- 例：`forever` の service の最初の巡の後。 -/
theorem protocolTables_first_round :
    ∃ s out, step demoConfig (.round ⟨none, none, .ok⟩) (Service.new true) = some (s, out) ∧
      s.futureTaskManager = false ∧ ProtocolTables demoConfig s.tables :=
  ⟨_, _, rfl, rfl, protocolTables_reachable
    (.step (.round ⟨none, none, .ok⟩) (.init : Reachable demoConfig true _ _) rfl)⟩

/-! ## state の shutdown -/

/-- `pre_shutdown` で立った state の shutdown は、表に触れるどの操作も下ろさない。 -/
theorem shutdown_invariant (cfg : Config) : TableInvariant cfg fun t _ => t.shutdown = true where
  calm h _ := h
  drain quick s _ _ := by simp only [shutdownDrain]; split <;> rfl
  listenStarted _ _ _ h := h
  listenClose _ _ _ _ h := h
  init h _ := h

end Tentacle
