import TgWsProxy.Guarantees.InitRouting
import TgWsProxy.Guarantees.PlainTcp

/-!
# The decision function against the routing code

`route_decision` is a case analysis over host, port and data centre that only
tests call; `route_client` makes its own on the way. The two agree except on the
port: `route_decision` counts a session to port 0 as one of an unknown data
centre, and `route_client`, which never looks at the port, takes it to the
back-off check and the WebSocket route (`route_decision_describes_iff`).
-/

set_option autoImplicit false

namespace TgWsProxy.Guarantees.RouteDecision
open Library Source.Std Source.Telegram Source.Ws Source.Routing InitRouting

/-- The branches of `route_client` that `route_decision` has names for. -/
inductive Branch where
  | tcpPassthrough | unknownDc | wsOnly
  deriving DecidableEq, Repr

def Branch.name : Branch → String
  | .tcpPassthrough => "tcp_passthrough"
  | .unknownDc => "unknown_dc"
  | .wsOnly => "ws_only"

/-- The branch an outcome comes from. `passthrough_non_telegram` connects before it
has read anything, `handle_unknown_dc` closes or sends the init packet ahead, and
what is left are the ends of the back-off check and of the WebSocket route. -/
def branch (outcome : Outcome) : Option Branch :=
  match outcome with
  | .tcp _ _ [] _ => some .tcpPassthrough
  | .tcp _ _ (_ :: _) _ | .closed .unknownDc => some .unknownDc
  | .bridge _ _ _ _ _ | .closed .cooldown | .closed .disabled404 | .closed .wsUnavailable =>
    some .wsOnly
  | .closed .initIo | .closed .initTimeout | .closed .httpTransport => none

variable (aes : Aes256)

/-- On a session that sends the init packet in time, whatever it sends next and
whatever the state of the proxy, `route_decision` names each of the three branches
exactly when `route_client` takes it. -/
def Describes (cache : Ipv6Cache) (host : String) (port : UInt16) (init client : Bytes) : Prop :=
  ∀ table now connect,
    let hasDc := (resolveTelegramInit aes cache host init).info.dc.isSome
    let taken := branch
      (routeClient aes ⟨host, port, init ++ client⟩ true cache table now connect)
    (routeDecision host port hasDc = "tcp_passthrough" ↔ taken = some .tcpPassthrough) ∧
    (routeDecision host port hasDc = "unknown_dc" ↔ taken = some .unknownDc) ∧
    (routeDecision host port hasDc = "ws_only" ↔ taken = some .wsOnly)

/-! ## The branch taken -/

theorem isHttpTransport_resolved (cache : Ipv6Cache) (host : String) (init : Bytes)
    (h64 : init.length = 64) :
    isHttpTransport (resolveTelegramInit aes cache host init).packet = isHttpTransport init := by
  rcases resolve_spec aes cache host init with
    ⟨own, -, hresolved⟩ | ⟨entry, -, -, hresolved⟩ | ⟨-, -, hresolved⟩
  · rw [hresolved]
  · rw [hresolved]
    exact isHttpTransport_patchInitDc aes init _ (Nat.le_of_eq h64.symm)
  · rw [hresolved]

/-- The data centre stays unknown when neither the packet nor its host names one. -/
theorem resolved_dc_none_iff (cache : Ipv6Cache) (host : String) (init : Bytes) :
    (resolveTelegramInit aes cache host init).info.dc = none ↔
      (extractDc aes init).dc = none ∧ hostEntry cache host = none := by
  unfold hostEntry
  rcases resolve_spec aes cache host init with
    ⟨own, hown, hresolved⟩ | ⟨entry, hnone, hentry, hresolved⟩ | ⟨hnone, hentry, hresolved⟩
  · simp [hresolved, hown]
  · simp [hresolved, hentry]
  · simp [hresolved, hnone, hentry]

theorem branch_wsOnly (session : Session) (resolved : ResolvedTelegramInit) (key : WsKey)
    (decision : WsDecision) (attempt : WsConnectAttempt) :
    branch (match checkDecision decision with
      | .error outcome => outcome
      | .ok () => afterAttempt aes session resolved key attempt) = some .wsOnly := by
  have hattempt : branch (afterAttempt aes session resolved key attempt) = some .wsOnly := by
    unfold afterAttempt
    split <;> rfl
  cases decision with
  | probeNow | probeInFlight => exact hattempt
  | cooldown | disabled404 => rfl

/-- `route_client` goes by the host and the resolved data centre. -/
def takenBranch : (telegram : Bool) → (dc : Option UInt8) → Branch
  | false, _ => .tcpPassthrough
  | true, none => .unknownDc
  | true, some _ => .wsOnly

theorem branch_routeClient (cache : Ipv6Cache) (table : WsBackoff) (now : Instant)
    (connect : String → Option WsError) (host : String) (port : UInt16) (init client : Bytes)
    (h64 : init.length = 64) (notHttp : isHttpTransport init = false) :
    branch (routeClient aes ⟨host, port, init ++ client⟩ true cache table now connect) =
      some (takenBranch (isTelegramIp host) (resolveTelegramInit aes cache host init).info.dc) := by
  rw [routeClient_eq, openSession]
  cases htelegram : isTelegramIp host with
  | false => rfl
  | true =>
    have hfull : ¬ (init ++ client).length < 64 := by
      rw [List.length_append]
      omega
    have hinit : (init ++ client).take 64 = init := List.take_left' h64
    simp only [Bool.not_true, Bool.false_eq_true, if_false, hfull, hinit]
    have hhttp := isHttpTransport_resolved aes cache host init h64
    rw [notHttp] at hhttp
    rw [selectRoute, hhttp, if_neg Bool.false_ne_true]
    cases hdc : (resolveTelegramInit aes cache host init).info.dc with
    | some dc => exact branch_wsOnly aes _ _ _ _ _
    | none =>
      rw [PlainTcp.packet_of_unresolved aes cache host init hdc]
      cases init with
      | nil => cases h64
      | cons first rest =>
        unfold handleUnknownDc
        dsimp only
        split <;> rfl

/-- `route_decision` goes by the same conditions and by the port. -/
def decidedBranch (telegram : Bool) (port : UInt16) (hasDc : Bool) : Branch :=
  if !telegram then .tcpPassthrough else if hasDc && port != 0 then .wsOnly else .unknownDc

theorem routeDecision_eq (host : String) (port : UInt16) (hasDc : Bool) :
    routeDecision host port hasDc = (decidedBranch (isTelegramIp host) port hasDc).name := by
  unfold routeDecision decidedBranch
  split
  · rfl
  · split <;> rfl

theorem decided_eq_taken_iff (telegram : Bool) (port : UInt16) (dc : Option UInt8) :
    decidedBranch telegram port dc.isSome = takenBranch telegram dc ↔
      port ≠ 0 ∨ telegram = false ∨ dc = none := by
  cases telegram with
  | false => simp [decidedBranch, takenBranch]
  | true =>
    cases dc with
    | none => simp [decidedBranch, takenBranch]
    | some dc => by_cases hport : port = 0 <;> simp [decidedBranch, takenBranch, hport]

/-- The three equivalences hold together exactly when one branch is decided and taken. -/
theorem names_agree_iff (decided taken : Branch) :
    ((decided.name = "tcp_passthrough" ↔ some taken = some .tcpPassthrough) ∧
      (decided.name = "unknown_dc" ↔ some taken = some .unknownDc) ∧
      (decided.name = "ws_only" ↔ some taken = some .wsOnly)) ↔ decided = taken := by
  cases decided <;> cases taken <;> decide

/-- `route_decision` describes `route_client` exactly when the port is not 0, or the host is
not Telegram's, or no data centre is known. -/
theorem route_decision_describes_iff (cache : Ipv6Cache) (host : String) (port : UInt16)
    (init client : Bytes) (h64 : init.length = 64) (notHttp : isHttpTransport init = false) :
    Describes aes cache host port init client ↔
      port ≠ 0 ∨ isTelegramIp host = false ∨
        (extractDc aes init).dc = none ∧ hostEntry cache host = none := by
  rw [← resolved_dc_none_iff, ← decided_eq_taken_iff]
  have htaken := branch_routeClient aes cache
  constructor
  · intro h
    have hnames := h .empty 0 fun _ => none
    dsimp only at hnames
    rwa [htaken _ _ _ host port init client h64 notHttp, routeDecision_eq, names_agree_iff] at hnames
  · intro hsame table now connect
    dsimp only
    rwa [htaken _ _ _ host port init client h64 notHttp, routeDecision_eq, names_agree_iff]

theorem route_decision_describes_iff_443 :
    Describes sampleAes .empty "149.154.167.51" 443 (sampleInit [0xEF, 0xEF, 0xEF, 0xEF]) [] :=
  (route_decision_describes_iff sampleAes .empty "149.154.167.51" 443
    (sampleInit [0xEF, 0xEF, 0xEF, 0xEF]) [] (by decide) (by decide)).mpr (.inl (by decide))

/-- Port 0 and a packet that names data centre 2: decided as unknown, taken to the back-off
check. -/
theorem port_zero_reaches_backoff :
    (sampleInit [0xEF, 0xEF, 0xEF, 0xEF]).length = 64 ∧
      isHttpTransport (sampleInit [0xEF, 0xEF, 0xEF, 0xEF]) = false ∧
      ¬ Describes sampleAes .empty "149.154.167.51" 0 (sampleInit [0xEF, 0xEF, 0xEF, 0xEF]) [] := by
  refine ⟨by decide, by decide, ?_⟩
  intro h
  have hunknown := (h .empty 0 fun _ => none).2.1
  have hdecided : routeDecision "149.154.167.51" 0 (resolveTelegramInit sampleAes .empty
      "149.154.167.51" (sampleInit [0xEF, 0xEF, 0xEF, 0xEF])).info.dc.isSome = "unknown_dc" := by
    decide +kernel
  have htaken : branch (routeClient sampleAes
      ⟨"149.154.167.51", 0, sampleInit [0xEF, 0xEF, 0xEF, 0xEF] ++ []⟩ true .empty .empty 0
      fun _ => none) = some .wsOnly := by
    decide +kernel
  have hboth := hunknown.mp hdecided
  rw [htaken] at hboth
  cases hboth

end TgWsProxy.Guarantees.RouteDecision
