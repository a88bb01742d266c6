import Tentacle.Service.Session

/-!
# handle_message の振り分け

`handle_message` は `before_send` を一度だけかけてから、宛先の session ごとに
`push_message` し、最後に `distribute_to_session` する。

* `TargetSession.count` — 宛先が session を名指す回数（spec の言葉による）
* `lookup_routeMessage` — 振り分けた後の各 session は、名指された回数だけ積まれている
* `handleMessage_pushes` — `handle_message` 全体について、積まれる bytes と優先度と回数を言う
-/

namespace Tentacle

/-- 宛先が session `id` を名指す回数。`All` は生きている session をどれも一度、`Single` は
その id を一度、`Multi` は列に出てくる回数だけ名指す。 -/
def TargetSession.count (id : SessionId) : TargetSession → Nat
  | .all => 1
  | .single i => if i = id then 1 else 0
  | .multi ids => ids.count id

/-! ## 積む回数 -/

/-- `get_mut` で書き換える loop を id の列に沿って回すと、各 key の値は列に出てくる回数だけ
書き換わる。 -/
theorem lookup_foldl_modifyVal {V : Type} (f : V → V) (k : SessionId) :
    ∀ (ids : List SessionId) (m : HashMap SessionId V),
      (ids.foldl (fun m id => m.modifyVal id f) m).lookup k = (m.lookup k).map f^[ids.count k]
  | [], m => by simp
  | id :: ids, m => by
    rw [List.foldl_cons, lookup_foldl_modifyVal f k ids, AList.lookup_modifyVal, List.count_cons]
    by_cases h : k = id
    · subst h
      simp [Option.map_map, Function.iterate_succ]
    · simp [h, Ne.symm h]

theorem lookup_routeMessage (target : TargetSession) (p : ProtocolId) (q : Priority) (d : Bytes)
    (m : HashMap SessionId SessionController) (k : SessionId) :
    (routeMessage target p q d m).lookup k =
      (m.lookup k).map (·.pushMessage p q d)^[target.count k] := by
  cases target with
  | all => simp [routeMessage, TargetSession.count, AList.lookup_mapVal]
  | single id =>
    by_cases h : k = id
    · subst h; simp [routeMessage, TargetSession.count]
    · simp [routeMessage, TargetSession.count, h, Ne.symm h]
  | multi ids => exact lookup_foldl_modifyVal _ k ids m

example : ((routeMessage (.multi [0, 0, 5]) 1 .normal [7]
    ((∅ : HashMap SessionId SessionController).insert 0 ⟨⟨0, [], .inbound, none⟩, Buffer.new⟩)
      ).lookup 0).map (·.buffer.items.length) = some 2 := by decide

/-- `push_message` を `n` 回すると、同じ message が `n` 個、buffer の後ろに並ぶ。 -/
theorem pushMessage_iterate (p : ProtocolId) (q : Priority) (d : Bytes) :
    ∀ (n : Nat) (c : SessionController), (·.pushMessage p q d)^[n] c =
      { c with buffer := ⟨c.buffer.items ++ List.replicate n (q, .protocolMessage c.inner.id p d)⟩ }
  | 0, c => by simp
  | n + 1, c => by
    rw [Function.iterate_succ', Function.comp_apply, pushMessage_iterate p q d n c]
    simp [SessionController.pushMessage, SessionController.push, Buffer.push,
      List.replicate_succ']

theorem applyBeforeSend_eq (bs : HashMap ProtocolId (Bytes → Bytes)) (p : ProtocolId) (d : Bytes) :
    applyBeforeSend bs p d = ((bs.lookup p).map (· d)).getD d := by
  unfold applyBeforeSend
  split <;> simp [*]

/-! ## handle_message -/

/-- どの宛先（`Single`、重複や生きていない id を含むどの `Multi`、`All`）、どの protocol、
どの payload についても、`handle_message` は protocol の `before_send` を（登録されていれば）
一度だけかけ、その bytes を与えた優先度で、宛先がその session を名指す回数だけ各生きている
session に積む。生きていない id には何も積まず、名指されない session の buffer は変えない。
その後に `distribute_to_session` する。 -/
theorem handleMessage_pushes (o : SendOracle) (target : TargetSession) (protoId : ProtocolId)
    (priority : Priority) (data : Bytes) (s : Service) :
    ∃ m, handleMessage o target protoId priority data s =
        distributeToSession o { s with sessions := m } ∧
      ∀ id, m.lookup id = (s.sessions.lookup id).map fun c =>
        { c with buffer := ⟨c.buffer.items ++ List.replicate (target.count id)
          (priority, .protocolMessage c.inner.id protoId
            (((s.beforeSends.lookup protoId).map (· data)).getD data))⟩ } := by
  refine ⟨_, rfl, fun id => ?_⟩
  rw [lookup_routeMessage, applyBeforeSend_eq]
  exact congrArg (Option.map · _) (funext (pushMessage_iterate _ _ _ _))

end Tentacle
