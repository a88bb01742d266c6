import Tentacle.Properties.Step
import Tentacle.World

/-!
# 互いに dial し合う二つの peer

二つの peer A と B が同時に互いを dial すると、どちらの peer にも相手との接続が二本できる。
A が dial した接続 `c₁` は A から見て outbound、B から見て inbound で、B が dial した `c₂` は
その逆である。`session_open` の重複検査は、同じ公開鍵の session が既にあれば後から来た
接続を断って `poll_shutdown` する。向きや公開鍵で順位をつけることはしない。

* `handleBoth_keeps_first` — 一つの peer が同じ公開鍵の接続を二本続けて処理するとき、
  先の接続に session を開いたなら、後の接続には開かない。
* `crossDial_agree_iff` — そこから、二つの peer が共通の接続を残すのは、どちらも同じ接続を
  先に処理したときだけである。
-/

namespace Tentacle

/-! ## 一つの peer -/

/-- 一つの peer が二つの session event を続けて処理し、handle に渡したことを返す。 -/
def handleBoth (cfg : Config) (o : SendOracle) (s : Service) (e₁ e₂ : SessionEvent) :
    Option (List Effect) := do
  let r₁ ← handleSessionEvent cfg o e₁ s
  let r₂ ← handleSessionEvent cfg o e₂ r₁.1
  pure (r₁.2 ++ r₂.2)

/-- handle `h` の接続に `Session` を spawn したか。 -/
def keepsHandle (h : Handle) (out : List Effect) : Bool :=
  out.any fun
    | .spawn (.session _ h' _ _) => h' == h
    | _ => false

theorem keepsHandle_iff {h : Handle} {out : List Effect} :
    keepsHandle h out = true ↔
      ∃ id senders opened, Effect.spawn (.session id h senders opened) ∈ out := by
  simp only [keepsHandle, List.any_eq_true]
  constructor
  · rintro ⟨e, he, hk⟩
    cases e with
    | spawn t =>
      cases t with
      | session id h' senders opened =>
        obtain rfl : h' = h := by simpa using hk
        exact ⟨id, senders, opened, he⟩
      | _ => simp at hk
    | _ => simp at hk
  · rintro ⟨id, senders, opened, he⟩
    exact ⟨_, he, by simp⟩

/-- `HandshakeSuccess` の処理が `Session` を spawn したなら、それはその接続の handle を持ち、
処理の前には同じ公開鍵の session が無く、処理の後にはその公開鍵の session がある。 -/
theorem handshakeSuccess_spawn {cfg : Config} {o : SendOracle} {h : Handle}
    {key : Option PublicKey} {a : Multiaddr} {ty : SessionType} {l : Option Multiaddr}
    {s s' : Service} {out : List Effect}
    (he : handleSessionEvent cfg o (.handshakeSuccess h key a ty l) s = some (s', out))
    {id : SessionId} {h' : Handle} {senders : List (ProtocolId × List SessionProtocolEvent)}
    {opened : List String} (hm : Effect.spawn (.session id h' senders opened) ∈ out) :
    h' = h ∧ (∀ k, key = some k → ∀ j c, s.contexts j = some c → c.remotePubkey ≠ some k) ∧
      ∃ c, s'.contexts id = some c ∧ c.remotePubkey = key := by
  obtain ⟨s₁, rfl, ⟨-, rfl⟩ | ⟨-, ho⟩⟩ := handleHandshakeSuccess_cases he
  · cases hm
  · obtain ⟨rfl, -, -, hu, hc⟩ := sessionOpen_spawn ho hm
    exact ⟨rfl, hu, hc⟩

/-- 同じ公開鍵の接続を二本続けて処理するとき、先の接続に session を開いたなら、後の接続には
開かない。後の接続は重複検査で断られるか、上限で落とされる。 -/
theorem handleBoth_keeps_first {cfg : Config} {o : SendOracle} {s : Service} {h₁ h₂ : Handle}
    {k : PublicKey} {a₁ a₂ : Multiaddr} {ty₁ ty₂ : SessionType} {l₁ l₂ : Option Multiaddr}
    {out : List Effect} (hne : h₁ ≠ h₂)
    (hb : handleBoth cfg o s (.handshakeSuccess h₁ (some k) a₁ ty₁ l₁)
      (.handshakeSuccess h₂ (some k) a₂ ty₂ l₂) = some out)
    (h1 : keepsHandle h₁ out = true) : keepsHandle h₂ out = false := by
  simp only [handleBoth, Option.bind_eq_bind, Option.bind_eq_some, Option.pure_def,
    Option.some.injEq] at hb
  obtain ⟨⟨s₁, out₁⟩, he₁, ⟨s₂, out₂⟩, he₂, rfl⟩ := hb
  rw [Bool.eq_false_iff]
  intro h2
  obtain ⟨id₁, _, _, hm₁⟩ := keepsHandle_iff.mp h1
  obtain ⟨id₂, _, _, hm₂⟩ := keepsHandle_iff.mp h2
  rcases List.mem_append.mp hm₁ with hm₁ | hm₁
  · rcases List.mem_append.mp hm₂ with hm₂ | hm₂
    · exact hne (handshakeSuccess_spawn he₁ hm₂).1.symm
    · -- 先の接続の session が、後の接続の重複検査に見つかる
      obtain ⟨-, -, c, hc, hck⟩ := handshakeSuccess_spawn he₁ hm₁
      exact (handshakeSuccess_spawn he₂ hm₂).2.1 k rfl id₁ c hc hck
  · exact hne (handshakeSuccess_spawn he₂ hm₁).1

/-! ## 二つの peer -/

/-- 互いに dial し合う二つの peer。`c₁` は A が dial した接続、`c₂` は B が dial した接続で、
handle と相手の address はそれぞれの側で見えるもの。A の handshake は B の公開鍵を、B の
handshake は A の公開鍵を認証する。 -/
structure CrossDial where
  cfgA : Config
  cfgB : Config
  oracleA : SendOracle
  oracleB : SendOracle
  serviceA : Service
  serviceB : Service
  keyA : PublicKey
  keyB : PublicKey
  handleA₁ : Handle
  handleA₂ : Handle
  handleB₁ : Handle
  handleB₂ : Handle
  remoteA₁ : Multiaddr
  remoteA₂ : Multiaddr
  remoteB₁ : Multiaddr
  remoteB₂ : Multiaddr
  listenA : Multiaddr
  listenB : Multiaddr

namespace CrossDial

variable (x : CrossDial)

/-- A が受ける `c₁` の `HandshakeSuccess`（outbound）。 -/
def eventA₁ : SessionEvent := .handshakeSuccess x.handleA₁ (some x.keyB) x.remoteA₁ .outbound none

/-- A が受ける `c₂` の `HandshakeSuccess`（inbound）。 -/
def eventA₂ : SessionEvent :=
  .handshakeSuccess x.handleA₂ (some x.keyB) x.remoteA₂ .inbound (some x.listenA)

/-- B が受ける `c₁` の `HandshakeSuccess`（inbound）。 -/
def eventB₁ : SessionEvent :=
  .handshakeSuccess x.handleB₁ (some x.keyA) x.remoteB₁ .inbound (some x.listenB)

/-- B が受ける `c₂` の `HandshakeSuccess`（outbound）。 -/
def eventB₂ : SessionEvent := .handshakeSuccess x.handleB₂ (some x.keyA) x.remoteB₂ .outbound none

/-- A が二つの `HandshakeSuccess` を処理する。`first₁` なら `c₁` が先。 -/
def runA (first₁ : Bool) : Option (List Effect) :=
  if first₁ then handleBoth x.cfgA x.oracleA x.serviceA x.eventA₁ x.eventA₂
  else handleBoth x.cfgA x.oracleA x.serviceA x.eventA₂ x.eventA₁

/-- B が二つの `HandshakeSuccess` を処理する。`first₁` なら `c₁` が先。 -/
def runB (first₁ : Bool) : Option (List Effect) :=
  if first₁ then handleBoth x.cfgB x.oracleB x.serviceB x.eventB₁ x.eventB₂
  else handleBoth x.cfgB x.oracleB x.serviceB x.eventB₂ x.eventB₁

/-- 接続 `c₁` を両側が残したか。片側でも断られた接続は、両側で閉じる。 -/
def keeps₁ (outA outB : List Effect) : Bool :=
  keepsHandle x.handleA₁ outA && keepsHandle x.handleB₁ outB

/-- 接続 `c₂` を両側が残したか。 -/
def keeps₂ (outA outB : List Effect) : Bool :=
  keepsHandle x.handleA₂ outA && keepsHandle x.handleB₂ outB

end CrossDial

/-- 二本の接続の handle がそれぞれの側で違い、各 peer が先に処理した接続に session を開くなら、
二つの peer が共通の接続を残すのは、どちらも同じ接続を先に処理したときだけである。 -/
theorem crossDial_agree_iff (x : CrossDial) (hA : x.handleA₁ ≠ x.handleA₂)
    (hB : x.handleB₁ ≠ x.handleB₂) {firstA firstB : Bool} {outA outB : List Effect}
    (ha : x.runA firstA = some outA) (hb : x.runB firstB = some outB)
    (hfa : keepsHandle (if firstA then x.handleA₁ else x.handleA₂) outA = true)
    (hfb : keepsHandle (if firstB then x.handleB₁ else x.handleB₂) outB = true) :
    (x.keeps₁ outA outB = true ∨ x.keeps₂ outA outB = true) ↔ firstA = firstB := by
  -- 各 peer は先に処理した接続だけを残す
  have hsa : keepsHandle (if firstA then x.handleA₂ else x.handleA₁) outA = false := by
    cases firstA
    · exact handleBoth_keeps_first (Ne.symm hA) ha hfa
    · exact handleBoth_keeps_first hA ha hfa
  have hsb : keepsHandle (if firstB then x.handleB₂ else x.handleB₁) outB = false := by
    cases firstB
    · exact handleBoth_keeps_first (Ne.symm hB) hb hfb
    · exact handleBoth_keeps_first hB hb hfb
  cases firstA <;> cases firstB <;>
    simp_all [CrossDial.keeps₁, CrossDial.keeps₂]

/-! ## 例の二つの peer -/

/-- 例の peer の run。`own` で listen し、`other` を dial して handle `h` の接続を得る。 -/
def peerTrace (own other : Multiaddr) (h : Handle) : List WorldInput :=
  [.listen own (.ok own), .dial other .all (.ok (other, h))]

/-- 例の peer の run の後の `World`。 -/
def peerWorld (own other : Multiaddr) (h : Handle) : World :=
  ((World.init false).run demoConfig (peerTrace own other h)).getD (World.init false)

theorem peerWorld_reachable (own other : Multiaddr) (h : Handle) :
    WorldReachable demoConfig false (peerWorld own other h) :=
  @WorldReachable.run _ _ (World.init false) _ (peerTrace own other h) .init rfl

/-- `/ip4/1/tcp/80` の A と `/ip4/2/tcp/80` の B が互いを dial する。A の handle は
`c₁` が 11、`c₂` が 12、B の handle は `c₁` が 21、`c₂` が 22。 -/
def crossDemo : CrossDial where
  cfgA := demoConfig
  cfgB := demoConfig
  oracleA := .ok
  oracleB := .ok
  serviceA := (peerWorld [.ip4 1, .tcp 80] [.ip4 2, .tcp 80] 11).service
  serviceB := (peerWorld [.ip4 2, .tcp 80] [.ip4 1, .tcp 80] 22).service
  keyA := ⟨[1]⟩
  keyB := ⟨[2]⟩
  handleA₁ := 11
  handleA₂ := 12
  handleB₁ := 21
  handleB₂ := 22
  remoteA₁ := [.ip4 2, .tcp 80]
  remoteA₂ := [.ip4 2, .tcp 5000]
  remoteB₁ := [.ip4 1, .tcp 5000]
  remoteB₂ := [.ip4 1, .tcp 80]
  listenA := [.ip4 1, .tcp 80]
  listenB := [.ip4 2, .tcp 80]

/-- 例の二つの peer がどちらも `c₁` を先に処理すれば、`c₁` が両側に残る。 -/
theorem crossDial_agree_iff_demo :
    ∃ outA outB, crossDemo.runA true = some outA ∧ crossDemo.runB true = some outB ∧
      ((crossDemo.keeps₁ outA outB = true ∨ crossDemo.keeps₂ outA outB = true) ↔ true = true) := by
  obtain ⟨outA, ha, hA⟩ := Option.exists_of_any
    (show (crossDemo.runA true).any (keepsHandle 11) = true by decide)
  obtain ⟨outB, hb, hB⟩ := Option.exists_of_any
    (show (crossDemo.runB true).any (keepsHandle 21) = true by decide)
  exact ⟨outA, outB, ha, hb, crossDial_agree_iff crossDemo (by decide) (by decide) ha hb hA hB⟩

/-- 例の二つの peer がそれぞれ自分の dial した接続を先に処理すると、A は `c₂` を、B は `c₁` を
重複として `poll_shutdown` し、どちらの接続も両側には残らない。 -/
theorem crossDial_both_closed :
    WorldReachable demoConfig false (peerWorld [.ip4 1, .tcp 80] [.ip4 2, .tcp 80] 11) ∧
    WorldReachable demoConfig false (peerWorld [.ip4 2, .tcp 80] [.ip4 1, .tcp 80] 22) ∧
    ∃ outA outB, crossDemo.runA true = some outA ∧ crossDemo.runB false = some outB ∧
      Effect.shutdownHandle crossDemo.handleA₂ ∈ outA ∧
      Effect.shutdownHandle crossDemo.handleB₁ ∈ outB ∧
      crossDemo.keeps₁ outA outB = false ∧ crossDemo.keeps₂ outA outB = false := by
  obtain ⟨outA, ha, hA⟩ := Option.exists_of_any (show (crossDemo.runA true).any
    (fun o => o.contains (.shutdownHandle 12) && !keepsHandle 12 o) = true by decide)
  obtain ⟨outB, hb, hB⟩ := Option.exists_of_any (show (crossDemo.runB false).any
    (fun o => o.contains (.shutdownHandle 21) && !keepsHandle 21 o) = true by decide)
  simp only [Bool.and_eq_true, Bool.not_eq_true'] at hA hB
  refine ⟨peerWorld_reachable _ _ _, peerWorld_reachable _ _ _, outA, outB, ha, hb,
    by simpa [crossDemo] using hA.1, by simpa [crossDemo] using hB.1, ?_, ?_⟩ <;>
    simp [CrossDial.keeps₁, CrossDial.keeps₂, crossDemo, hA.2, hB.2]

end Tentacle
