import Tentacle.Service.Poll

/-!
# service と、その外で走る future

service は dial・listen・handshake・listener・session を future として runtime に渡し、
それらは終わるときに session event を送ってくる。`World` はその future の集まりを持ち、
future が一歩進むことと service の一巡とを交互に起こす。

future がどう振る舞うかのうち、`dial_inner` と `listen_inner` の future はソースにある。
handshake・listener・session はソースに無いので spec に従う（`react` の docstring）。

future が event を送る一歩と、service がそれを読む一巡は一つにまとめる。event は
送られた順に読まれるが、送る時刻は future ごとに自由なので、読む直前に送ったものとしてよい。
そのため一巡が event を読まない（handler の buffer が溢れている）ときは、future も進めない。
-/

namespace Tentacle

/-- 外で走る future が一歩進むときの結果。 -/
inductive Outcome where
  | fail (error : String)
  | connect (address : Multiaddr) (handle : Handle)
  | bind (address : Multiaddr)
  | authenticate (key : Option PublicKey)
  | close
  | report (e : SessionEvent)
  | finish
  deriving DecidableEq, Repr

/-- session が自分の id について送る event。 -/
def SessionEvent.reportedBy (id : SessionId) : SessionEvent → Bool
  | .protocolMessage i .. | .protocolOpen i .. | .protocolClose i .. | .protocolSelectError i ..
  | .protocolError i .. | .sessionTimeout i | .muxerError i .. => i == id
  | _ => false

/--
future `t` が `outcome` で一歩進んだとき、service に送る event と、後に残る future。

* `dial_inner` の future：失敗すれば `DialError`、繋がれば outbound の handshake になる。
* `listen_inner` の future：bind できれば `ListenStart`、できなければ `ListenError`。
* Modelled from the spec: handshake は §4.3 の通り `HandshakeSuccess` か `HandshakeError`、
  listener は接続を受けるたびに inbound の handshake を始め、止まるときに自分の address の
  `ListenError` を送る。session は閉じるときに `SessionClose` を送り、それまでは自分の id の
  event を送る。

`init_proto_handles` と `session_handles_open` が spawn する handler の stream の future は
`World` に入れない。だからそれが送る `ProtocolHandleError` は、どの `World` の run にも現れず、
`World` の上の性質はその event を読む巡を含まない。
-/
def react : FutureTask → Outcome → Option (Option SessionEvent × List FutureTask)
  | .dial address, .fail e => some (some (.dialError address e), [])
  | .dial _, .connect addr handle => some (none, [.handshake handle .outbound addr none])
  | .listen _, .bind addr => some (some (.listenStart addr), [])
  | .listen address, .fail e => some (some (.listenError address e), [])
  | .handshake handle ty addr l, .authenticate key =>
    some (some (.handshakeSuccess handle key addr ty l), [])
  | .handshake _ ty addr _, .fail e => some (some (.handshakeError ty e addr), [])
  | .listener l, .connect addr handle =>
    some (none, [.listener l, .handshake handle .inbound addr (some l)])
  | .listener l, .fail e => some (some (.listenError l e), [])
  | .session id .., .close => some (some (.sessionClose id), [])
  | t@(.session id ..), .report e => if e.reportedBy id then some (some e, [t]) else none
  | .user _, .finish => some (none, [])
  | _, _ => none

/-- 一回の操作が runtime に渡した future。 -/
def spawned (out : List Effect) : List FutureTask :=
  out.filterMap fun
    | .spawn t => some t
    | _ => none

/-- service と、外で走る future と、handle に渡ったことの列。 -/
structure World where
  service : Service
  tasks : List FutureTask
  log : List Effect

/-- `World` に起きる一歩。 -/
inductive WorldInput where
  /-- `i` 番目の future が event を送らずに進む。 -/
  | background (i : Nat) (outcome : Outcome)
  /-- service の一巡。`sender` があれば、その future が送った event を読む。 -/
  | round (sender : Option (Nat × Outcome)) (task : Option (Priority × ServiceTask))
      (oracle : SendOracle)
  | listen (address : Multiaddr) (result : Except String Multiaddr)
  | dial (address : Multiaddr) (target : TargetProtocol) (result : Except String (Multiaddr × Handle))

/-- service の一歩の結果を `World` に書き込む。 -/
def World.apply (w : World) (tasks : List FutureTask) (s : Service) (out : List Effect) : World :=
  ⟨s, tasks ++ spawned out, w.log ++ out⟩

/-- `World` の一歩。 -/
def World.next (cfg : Config) (w : World) : WorldInput → Option World
  | .background i outcome => do
    let t ← w.tasks[i]?
    match react t outcome with
    | some (none, ts) => some { w with tasks := w.tasks.eraseIdx i ++ ts }
    | _ => none
  | .round none task oracle =>
    (pollNext cfg ⟨none, task, oracle⟩ w.service).map fun r => w.apply w.tasks r.service r.out
  | .round (some (i, outcome)) task oracle => do
    let t ← w.tasks[i]?
    match react t outcome with
    | some (some e, ts) => do
      let r ← pollNext cfg ⟨some e, task, oracle⟩ w.service
      if r.sessionReady then some (w.apply (w.tasks.eraseIdx i ++ ts) r.service r.out) else none
    | _ => none
  | .listen address result =>
    let r := listen cfg address result w.service
    some (w.apply w.tasks r.1 r.2.1)
  | .dial address target result =>
    let r := dial cfg address target result w.service
    some (w.apply w.tasks r.1 r.2.1)

/-- 作ったばかりの service から届く `World`。 -/
inductive WorldReachable (cfg : Config) (forever : Bool) : World → Prop where
  | init : WorldReachable cfg forever ⟨Service.new forever, [], []⟩
  | step {w w' : World} (i : WorldInput) :
      WorldReachable cfg forever w → w.next cfg i = some w' → WorldReachable cfg forever w'

/-- 作ったばかりの `World`。 -/
def World.init (forever : Bool) : World := ⟨Service.new forever, [], []⟩

/-- 一歩ずつ入力の列をたどる。 -/
def World.run (cfg : Config) : World → List WorldInput → Option World
  | w, [] => some w
  | w, i :: is => (w.next cfg i).bind fun w' => w'.run cfg is

theorem WorldReachable.run {cfg : Config} {forever : Bool} :
    ∀ {w w' : World} {is : List WorldInput}, WorldReachable cfg forever w →
      w.run cfg is = some w' → WorldReachable cfg forever w'
  | _, _, [], h, hr => Option.some.inj hr ▸ h
  | _, _, i :: _, h, hr =>
    let ⟨_, hn, hr⟩ := Option.bind_eq_some.mp hr
    WorldReachable.run (.step i h hn) hr

/-- 計算で確かめた `o.any p` から、`p` を満たす `o` の値を取り出す。 -/
theorem Option.exists_of_any {α : Type} {o : Option α} {p : α → Bool} (h : o.any p = true) :
    ∃ a, o = some a ∧ p a = true := by
  cases o with
  | none => cases h
  | some a => exact ⟨a, rfl, h⟩

/-- 入力の列をたどった結果が `p` を満たせば、`p` を満たす届く `World` がある。 -/
theorem WorldReachable.exists_of_run (cfg : Config) (forever : Bool) (is : List WorldInput)
    (p : World → Bool) (h : ((World.init forever).run cfg is).any p = true) :
    ∃ w, WorldReachable cfg forever w ∧ p w = true :=
  let ⟨w, hr, hp⟩ := Option.exists_of_any h
  ⟨w, .run .init hr, hp⟩

/-! ## service だけを見る -/

/-- `World` の一歩は、service から見ればその一歩か、何も起きないかである。 -/
theorem World.next_service {cfg : Config} {w w' : World} {i : WorldInput}
    (h : w.next cfg i = some w') :
    (w'.service = w.service ∧ w'.log = w.log) ∨
      ∃ j out, step cfg j w.service = some (w'.service, out) ∧ w'.log = w.log ++ out := by
  cases i with
  | background i outcome =>
    left
    simp only [World.next, Option.bind_eq_bind, Option.bind_eq_some] at h
    obtain ⟨t, -, h⟩ := h
    split at h <;> cases h
    exact ⟨rfl, rfl⟩
  | round sender task oracle =>
    right
    rcases sender with _ | ⟨i, outcome⟩
    · simp only [World.next, Option.map_eq_some'] at h
      obtain ⟨r, hr, rfl⟩ := h
      exact ⟨.round ⟨none, task, oracle⟩, r.out, by simp [step, hr, World.apply], rfl⟩
    · simp only [World.next, Option.bind_eq_bind, Option.bind_eq_some] at h
      obtain ⟨t, -, h⟩ := h
      split at h
      · rename_i e ts _
        obtain ⟨r, hr, h⟩ := Option.bind_eq_some.1 h
        split at h <;> cases h
        exact ⟨.round ⟨some e, task, oracle⟩, r.out, by simp [step, hr, World.apply], rfl⟩
      · cases h
  | listen address result =>
    right
    simp only [World.next, Option.some.injEq] at h
    subst h
    exact ⟨.listen address result, (listen cfg address result w.service).2.1, rfl, rfl⟩
  | dial address target result =>
    right
    simp only [World.next, Option.some.injEq] at h
    subst h
    exact ⟨.dial address target result, (dial cfg address target result w.service).2.1, rfl, rfl⟩

/-- `World` の service と、handle に渡ったことの列は、service の run として届く。 -/
theorem WorldReachable.reachable {cfg : Config} {forever : Bool} {w : World}
    (h : WorldReachable cfg forever w) : Reachable cfg forever w.service w.log := by
  induction h with
  | init => exact .init
  | step i _ hn ih =>
    rcases World.next_service hn with ⟨hs, hl⟩ | ⟨j, out, hj, hl⟩
    · rw [hs, hl]; exact ih
    · rw [hl]; exact .step j ih hj

/-! ## 例に使う設定 -/

/-- どの `try_send` も全部送れる channel。 -/
def SendOracle.ok : SendOracle := ⟨fun _ => .ok, fun _ => .ok, fun _ => .ok, .ok⟩

/-- `tcp` の component を持つ address か。transport が扱えるのはそれだけとする。 -/
def Multiaddr.hasTcp (a : Multiaddr) : Bool := a.any fun p => p matches .tcp _

/-- 例に使う設定。session の handler を持つ protocol `ping` が一つ、接続は一つまで。
transport は `tcp` を含まない address を同期に断り、peer id は公開鍵の bytes そのもの。 -/
def demoConfig : Config where
  protocolConfigs := (∅ : HashMap ProtocolId ProtocolMeta).insert 1
    ⟨"ping", .callback, .callback, none⟩
  maxConnectionNumber := 1
  event := []
  sendEventSize := 64
  recvEventSize := 64
  peerIdOf k := ⟨k.bytes⟩
  peerIdFromBytes b := some ⟨b⟩
  transportListen a := if a.hasTcp then none else some "not supported"
  transportDial a := if a.hasTcp then none else some "not supported"

/-- 例の run。`/ip4/1/tcp/80` で listen し、公開鍵 `[2]` の peer からの接続を一つ受けて
session を開く。 -/
def demoTrace : List WorldInput :=
  [.listen [.ip4 1, .tcp 80] (.ok [.ip4 1, .tcp 80]),
   .background 0 (.connect [.ip4 2, .tcp 5000] 7),
   .round (some (1, .authenticate (some ⟨[2]⟩))) none .ok]

/-- 例の run の後の `World`。 -/
def demoWorld : World := ((World.init false).run demoConfig demoTrace).getD (World.init false)

theorem demoWorld_reachable : WorldReachable demoConfig false demoWorld :=
  @WorldReachable.run _ _ (World.init false) _ demoTrace .init rfl

end Tentacle
