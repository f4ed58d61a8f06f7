import GasFaucet.Node.Link
import Mathlib.Algebra.BigOperators.Group.Finset.Basic

/-!
# Operations

What the faucet can do over a link, one operation after the other.  Each makes one call, uses up one reply
and waits for it until the timeout; what it comes to depends on that reply alone.  A reply that is late is
used up like any other, so none is ever taken for the answer to another operation.
-/

namespace GasFaucet

/-- What can be done over a link. -/
inductive Operation
  | balance (account : Address) (block : BlockTag)
  | nonce (account : Address)
  | gasPrice
  | receipt (transaction : Digest)
  | broadcast (transfer : SignedTransfer)
  | liveness

inductive Response
  | number (result : Except Failure Word)
  | digest (result : Except Failure Digest)
  | mined (result : Except Failure Bool)
  | alive (alive : Bool)
  deriving DecidableEq

def Response.failure? : Response → Option Failure
  | number (.error f) | digest (.error f) | mined (.error f) => some f
  | _ => none

namespace Response

variable {f : Failure}

@[simp]
theorem failure?_number {result : Except Failure Word} :
    (number result).failure? = some f ↔ result = .error f := by
  cases result <;> simp [failure?]

@[simp]
theorem failure?_digest {result : Except Failure Digest} :
    (digest result).failure? = some f ↔ result = .error f := by
  cases result <;> simp [failure?]

@[simp]
theorem failure?_mined {result : Except Failure Bool} :
    (mined result).failure? = some f ↔ result = .error f := by
  cases result <;> simp [failure?]

end Response

/--
What comes of a call, by its reply: the time is up, the transport complains, the result is not of the
expected sort, or it is read.  A complaint is reported as the operation reports it.
-/
inductive Reading {α : Type} (name : String) (complain : String → Failure)
    (read : Json → Option (Except Failure α)) (timeout : Nat) (d : Delivery) : Except Failure α → Prop
  | late : timeout < d.delay → Reading name complain read timeout d (.error (.timeout name))
  | refused {message} : d.delay ≤ timeout → d.outcome = .refusal message →
      Reading name complain read timeout d (.error (complain message))
  | undecodable {j} : d.delay ≤ timeout → d.outcome = .result j → read j = none →
      Reading name complain read timeout d (.error (complain "undecodable result"))
  | read {j result} : d.delay ≤ timeout → d.outcome = .result j → read j = some result →
      Reading name complain read timeout d result

/--
What the result of a receipt lookup says: null, that there is no receipt; a receipt, that the transaction
has failed if its status is zero, and else that it has succeeded.
-/
def Json.lookup? (transaction : Digest) : Json → Option (Except Failure Bool)
  | .null => some (.error (.receiptNotFound transaction.text))
  | j =>
      if j.isReceipt then some (.ok ((j.field? "status").bind (quantity? 16) ≠ some 0)) else none

theorem Json.lookup?_of_ne_null {j : Json} (given : j ≠ .null) (transaction : Digest) :
    j.lookup? transaction =
      if j.isReceipt then some (.ok ((j.field? "status").bind (quantity? 16) ≠ some 0)) else none := by
  cases j <;> first | rfl | exact absurd rfl given

theorem Json.lookup?_eq_map_receipt? (transaction : Digest) (j : Json) :
    j.lookup? transaction = j.receipt?.map fun
      | some succeeded => .ok succeeded
      | none => .error (.receiptNotFound transaction.text) := by
  by_cases given : j = .null
  · subst given
    rfl
  · rw [lookup?_of_ne_null given, receipt?_of_ne_null given]
    cases j.isReceipt with
    | false => rfl
    | true =>
      cases succeeded : j.hasSucceeded with
      | false => simp [hasSucceeded_eq_false_iff.mp succeeded]
      | true =>
        have nonzero : (j.field? "status").bind (quantity? 16) ≠ some 0 := by
          rw [Ne, ← hasSucceeded_eq_false_iff, succeeded]
          exact Bool.noConfusion
        simp [nonzero]

namespace Operation

def call : Operation → Call
  | balance account block => .balance account block
  | nonce account => .nonce account
  | gasPrice => .gasPrice
  | receipt transaction => .receipt transaction
  | broadcast transfer => .broadcast transfer.raw
  | liveness => .blockNumber

/-- What an operation comes to, by the reply to its own call. -/
inductive Yields (timeout : Nat) (d : Delivery) : Operation → Response → Prop
  | balance {account block result} :
      Reading "balance" (.query "balance") (fun j => j.word?.map .ok) timeout d result →
      Yields timeout d (.balance account block) (.number result)
  | nonce {account result} :
      Reading "nonce" (.query "nonce") (fun j => j.word?.map .ok) timeout d result →
      Yields timeout d (.nonce account) (.number result)
  | gasPrice {result} :
      Reading "gas price" (.query "gas price") (fun j => j.word?.map .ok) timeout d result →
      Yields timeout d .gasPrice (.number result)
  | receipt {transaction result} :
      Reading "receipt" (.query "receipt") (Json.lookup? transaction) timeout d result →
      Yields timeout d (.receipt transaction) (.mined result)
  | broadcast {transfer result} :
      Reading "broadcast" (.broadcast transfer.sender.text) (fun j => j.digest?.map .ok) timeout d result →
      Yields timeout d (.broadcast transfer) (.digest result)
  | alive {number} :
      Reading "block number" (.query "block number") (fun j => (j.quantity? 16).map .ok) timeout d
        (.ok number) →
      Yields timeout d .liveness (.alive true)
  | dead {f} :
      Reading (α := Nat) "block number" (.query "block number") (fun j => (j.quantity? 16).map .ok)
        timeout d (.error f) →
      Yields timeout d .liveness (.alive false)

end Operation

namespace Link

def perform (l : Link) (w : Wire) : Operation → Response × Wire
  | .balance account block =>
      let (result, w) := l.balanceOf account block w
      (.number result, w)
  | .nonce account =>
      let (result, w) := l.nextNonce account w
      (.number result, w)
  | .gasPrice =>
      let (result, w) := l.suggestGasPrice w
      (.number result, w)
  | .receipt transaction =>
      let (result, w) := l.receiptStatus transaction w
      (.mined result, w)
  | .broadcast transfer =>
      let (result, w) := l.broadcast transfer w
      (.digest result, w)
  | .liveness =>
      let (alive, w) := l.isAlive w
      (.alive alive, w)

end Link

/-- A link, with the line that it goes over. -/
structure Connection where
  link : Link
  wire : Wire

/-- The reply to a later call on a line, if one is made. -/
def Wire.reply (w : Wire) (later : Nat) : Delivery :=
  (w.script[later]?).getD ⟨0, .refusal "no reply scripted"⟩

namespace Connection

def perform (c : Connection) (op : Operation) : Response × Connection :=
  let (response, wire) := c.link.perform c.wire op
  (response, { c with wire := wire })

def performAll : Connection → List Operation → List Response × Connection
  | c, [] => ([], c)
  | c, op :: ops =>
      let (response, c) := c.perform op
      let (responses, c) := c.performAll ops
      (response :: responses, c)

def timeAfter (c : Connection) (count : Nat) : Nat :=
  c.wire.now + ∑ k ∈ Finset.range count, min (c.wire.reply k).delay c.link.timeout

end Connection

section Readings

variable {α : Type} {name : String} {complain : String → Failure}
variable {read : Json → Option (Except Failure α)} {timeout : Nat} {d : Delivery}
variable {result other : Except Failure α}

theorem Reading.unique (first : Reading name complain read timeout d result)
    (second : Reading name complain read timeout d other) : other = result := by
  cases first with
  | late late =>
    cases second with
    | late _ => rfl
    | refused inTime _ | undecodable inTime _ _ | read inTime _ _ => omega
  | refused inTime said =>
    cases second with
    | late late => omega
    | refused _ same =>
      cases said.symm.trans same
      rfl
    | undecodable _ same _ | read _ same _ => cases said.symm.trans same
  | undecodable inTime said unread =>
    cases second with
    | late late => omega
    | refused _ same => cases said.symm.trans same
    | undecodable _ _ _ => rfl
    | read _ same known =>
      cases said.symm.trans same
      cases unread.symm.trans known
  | read inTime said known =>
    cases second with
    | late late => omega
    | refused _ same => cases said.symm.trans same
    | undecodable _ same unread =>
      cases said.symm.trans same
      cases known.symm.trans unread
    | read _ same known' =>
      cases said.symm.trans same
      exact Option.some.inj (known'.symm.trans known)

theorem reading_heard (name : String) (decode : Json → Option α) (timeout : Nat) (d : Delivery) :
    Reading name (.query name) (fun j => (decode j).map .ok) timeout d
      (heard name decode (d.within timeout)) := by
  rcases Nat.lt_or_ge timeout d.delay with late | inTime
  · rw [Delivery.within_of_lt late]
    exact .late late
  · rw [Delivery.within_of_le inTime]
    unfold heard
    cases said : d.outcome with
    | refusal message => exact .refused inTime said
    | result j =>
      dsimp only
      cases read : decode j with
      | none => exact .undecodable inTime said (by rw [read]; rfl)
      | some a => exact .read inTime said (by rw [read]; rfl)

/-- Only a late reply is reported as a timeout, where neither complaints nor results are. -/
theorem Reading.timeout_iff (reading : Reading name complain read timeout d result)
    (mild : ∀ message operation, complain message ≠ .timeout operation)
    (sound : ∀ j operation, read j ≠ some (.error (.timeout operation))) :
    (∃ operation, result = .error (.timeout operation)) ↔ timeout < d.delay := by
  cases reading with
  | late late => exact ⟨fun _ => late, fun _ => ⟨name, rfl⟩⟩
  | refused inTime _ | undecodable inTime _ _ =>
    constructor
    · rintro ⟨operation, same⟩
      exact absurd (Except.error.inj same) (mild _ operation)
    · intro late
      omega
  | read inTime _ known =>
    constructor
    · rintro ⟨operation, rfl⟩
      exact absurd known (sound _ operation)
    · intro late
      omega

theorem reading_heardBroadcast (sender : Address) (timeout : Nat) (d : Delivery) :
    Reading "broadcast" (.broadcast sender.text) (fun j => j.digest?.map .ok) timeout d
      (heardBroadcast sender (d.within timeout)) := by
  rcases Nat.lt_or_ge timeout d.delay with late | inTime
  · rw [Delivery.within_of_lt late]
    exact .late late
  · rw [Delivery.within_of_le inTime]
    unfold heardBroadcast
    cases said : d.outcome with
    | refusal message => exact .refused inTime said
    | result j =>
      dsimp only
      cases read : j.digest? with
      | none => exact .undecodable inTime said (by rw [read]; rfl)
      | some hash => exact .read inTime said (by rw [read]; rfl)

theorem reading_heardReceipt (transaction : Digest) (timeout : Nat) (d : Delivery) :
    Reading "receipt" (.query "receipt") (Json.lookup? transaction) timeout d
      (heardReceipt transaction (d.within timeout)) := by
  unfold heardReceipt
  have reading := reading_heard "receipt" Json.receipt? timeout d
  generalize heard "receipt" Json.receipt? (d.within timeout) = result at reading
  cases reading with
  | late late => exact .late late
  | refused inTime said => exact .refused inTime said
  | @undecodable j inTime said unread =>
    refine .undecodable inTime said ?_
    rw [Json.lookup?_eq_map_receipt?, Option.map_eq_none_iff.mp unread]
    rfl
  | @read j result inTime said known =>
    obtain ⟨found, decoded, rfl⟩ := Option.map_eq_some_iff.mp known
    refine .read inTime said ?_
    rw [Json.lookup?_eq_map_receipt?, decoded]
    cases found <;> rfl

end Readings

section Perform

variable {op : Operation} {timeout : Nat} {d : Delivery} {response other : Response}

theorem Operation.Yields.unique (first : op.Yields timeout d response)
    (second : op.Yields timeout d other) : other = response := by
  cases first with
  | balance reading =>
    cases second with
    | balance same => rw [reading.unique same]
  | nonce reading =>
    cases second with
    | nonce same => rw [reading.unique same]
  | gasPrice reading =>
    cases second with
    | gasPrice same => rw [reading.unique same]
  | receipt reading =>
    cases second with
    | receipt same => rw [reading.unique same]
  | broadcast reading =>
    cases second with
    | broadcast same => rw [reading.unique same]
  | alive reading =>
    cases second with
    | alive _ => rfl
    | dead same => cases reading.unique same
  | dead reading =>
    cases second with
    | alive same => cases reading.unique same
    | dead _ => rfl

theorem Operation.Yields.timeout_iff (yields : op.Yields timeout d response) (spoken : op ≠ .liveness) :
    (∃ operation, response.failure? = some (.timeout operation)) ↔ timeout < d.delay := by
  cases yields with
  | balance reading | nonce reading | gasPrice reading =>
    simp only [Response.failure?_number]
    exact reading.timeout_iff (fun _ _ => nofun) (fun _ _ => by simp)
  | broadcast reading =>
    simp only [Response.failure?_digest]
    exact reading.timeout_iff (fun _ _ => nofun) (fun _ _ => by simp)
  | receipt reading =>
    simp only [Response.failure?_mined]
    refine reading.timeout_iff (fun _ _ => nofun) ?_
    intro j operation known
    rw [Json.lookup?_eq_map_receipt?] at known
    obtain ⟨found, -, same⟩ := Option.map_eq_some_iff.mp known
    cases found <;> cases same
  | alive _ | dead _ => exact absurd rfl spoken

theorem Operation.Yields.dead_of_late (yields : Operation.liveness.Yields timeout d response)
    (late : timeout < d.delay) : response = .alive false := by
  cases yields with
  | dead _ => rfl
  | alive reading => cases reading.unique (.late late)

theorem Link.yields_perform (l : Link) (w : Wire) (op : Operation) :
    op.Yields l.timeout w.next (l.perform w op).1 := by
  cases op with
  | balance account block => exact .balance (reading_heard "balance" Json.word? l.timeout w.next)
  | nonce account => exact .nonce (reading_heard "nonce" Json.word? l.timeout w.next)
  | gasPrice => exact .gasPrice (reading_heard "gas price" Json.word? l.timeout w.next)
  | receipt transaction => exact .receipt (reading_heardReceipt transaction l.timeout w.next)
  | broadcast transfer =>
    have reading := reading_heardBroadcast transfer.sender l.timeout w.next
    have result : (l.broadcast transfer w).1 =
        heardBroadcast transfer.sender (w.next.within l.timeout) := by
      unfold Link.broadcast Wire.exchange
      dsimp only
      cases heardBroadcast transfer.sender (w.next.within l.timeout) <;> rfl
    rw [← result] at reading
    exact .broadcast reading
  | liveness =>
    have reading := reading_heard "block number" (Json.quantity? 16) l.timeout w.next
    unfold Link.perform Link.isAlive Wire.exchange heardAlive
    dsimp only
    generalize heard "block number" (Json.quantity? 16) (w.next.within l.timeout) = result at reading
    cases result with
    | ok number => exact .alive reading
    | error f => exact .dead reading

/-- An operation makes one call and uses up one reply, which takes the reply's delay or the timeout. -/
structure Link.Exchanges (l : Link) (w : Wire) (op : Operation) (w' : Wire) : Prop where
  now : w'.now = w.now + min w.next.delay l.timeout
  script : w'.script = w.script.tail
  calls : w'.calls = w.calls ++ [(w.now, op.call)]

theorem Link.exchanges_perform (l : Link) (w : Wire) (op : Operation) :
    l.Exchanges w op (l.perform w op).2 := by
  cases op with
  | balance _ _ | nonce _ | gasPrice | receipt _ | liveness => exact ⟨rfl, rfl, rfl⟩
  | broadcast transfer =>
    have exchanged : l.Exchanges w (.broadcast transfer) (w.exchange l.timeout (.broadcast transfer.raw)).2 :=
      ⟨rfl, rfl, rfl⟩
    unfold Link.perform Link.broadcast
    dsimp only
    cases heardBroadcast transfer.sender (w.exchange l.timeout (.broadcast transfer.raw)).1 with
    | error f => exact exchanged
    | ok hash =>
      dsimp only
      split
      · exact exchanged
      · exact ⟨exchanged.now, exchanged.script, exchanged.calls⟩

end Perform

namespace Json

theorem hexText?_of_marked (digits : List Char) :
    (string (String.ofList ('0' :: 'x' :: digits))).hexText? = some digits := by
  unfold hexText?
  simp only [String.toList_ofList]

theorem isSome_mapM_hexValue? {digits : List Char} (hex : ∀ c ∈ digits, (Bytes.hexValue? c).isSome) :
    (digits.mapM Bytes.hexValue?).isSome := by
  induction digits with
  | nil => rfl
  | cons c digits ih =>
    obtain ⟨value, here⟩ := Option.isSome_iff_exists.mp (hex c List.mem_cons_self)
    obtain ⟨values, there⟩ :=
      Option.isSome_iff_exists.mp (ih fun d member => hex d (List.mem_cons_of_mem c member))
    simp [here, there]

theorem isSome_bytesOfLength? {length : Nat} {digits : List Char} (whole : digits.length = 2 * length)
    (hex : ∀ c ∈ digits, (Bytes.hexValue? c).isSome) :
    ((string (String.ofList ('0' :: 'x' :: digits))).bytesOfLength? length).isSome := by
  have read : (hexBytes? digits).isSome := by
    unfold hexBytes?
    rw [Option.isSome_map]
    exact isSome_mapM_hexValue? fun c member => hex c (List.mem_of_mem_filter member)
  unfold bytesOfLength?
  simp only [hexText?_of_marked, whole, if_true, Option.isSome_map, read]

/-- Bytes that are all zero, as a node writes them. -/
def zeros (length : Nat) : String :=
  String.ofList ('0' :: 'x' :: List.replicate (2 * length) '0')

theorem isSome_bytesOfLength?_zeros (length : Nat) :
    ((string (zeros length)).bytesOfLength? length).isSome := by
  apply isSome_bytesOfLength? (List.length_replicate ..)
  intro c member
  rw [List.eq_of_mem_replicate member]
  rfl

/-- The receipt of a transaction that has failed. -/
def reverted (hash sender bloom : String) : Json :=
  .object [("transactionHash", .string hash), ("transactionIndex", .string "0x0"),
    ("from", .string sender), ("cumulativeGasUsed", .string "0x5208"), ("logs", .array []),
    ("logsBloom", .string bloom), ("status", .string "0x0")]

theorem receipt?_reverted {hash sender bloom : String} (digest : isDigest (.string hash) = true)
    (address : isAddress (.string sender) = true) (filter : isBloom (.string bloom) = true) :
    (reverted hash sender bloom).receipt? = some (some false) := by
  have failed : (reverted hash sender bloom).hasSucceeded = false := rfl
  have whole : (reverted hash sender bloom).isReceipt = true := by
    unfold reverted isReceipt receiptFields
    simp only [List.all_cons, List.all_nil, Bool.and_true, Bool.and_eq_true]
    exact ⟨digest, rfl, address, rfl, rfl, filter, rfl, rfl, rfl, rfl, rfl, rfl, rfl, rfl, rfl⟩
  rw [receipt?_of_ne_null (by exact Json.noConfusion), whole, failed]
  rfl

theorem receipt?_reverted_zeros :
    (reverted (zeros 32) (zeros 20) (zeros 256)).receipt? = some (some false) :=
  receipt?_reverted (isSome_bytesOfLength?_zeros 32) (isSome_bytesOfLength?_zeros 20)
    (isSome_bytesOfLength?_zeros 256)

end Json

theorem heardReceipt_of_receipt? {j : Json} {succeeded : Bool} (known : j.receipt? = some (some succeeded))
    (transaction : Digest) : heardReceipt transaction (some (.result j)) = .ok succeeded := by
  unfold heardReceipt heard
  simp only [known]

namespace Connection

variable (c : Connection) (op : Operation) (ops : List Operation)

theorem reply_zero : c.wire.reply 0 = c.wire.next := by
  unfold Wire.reply Wire.next
  cases c.wire.script <;> rfl

theorem reply_perform (later : Nat) :
    (c.perform op).2.wire.reply later = c.wire.reply (later + 1) := by
  unfold Wire.reply
  rw [show (c.perform op).2.wire.script = _ from (c.link.exchanges_perform c.wire op).script,
    List.getElem?_tail]

theorem timeAfter_perform (count : Nat) :
    (c.perform op).2.timeAfter count = c.timeAfter (count + 1) := by
  have now : (c.perform op).2.wire.now = _ := (c.link.exchanges_perform c.wire op).now
  unfold timeAfter
  simp only [reply_perform, now, Finset.sum_range_succ', reply_zero]
  change _ + _ + ∑ k ∈ _, min (c.wire.reply (k + 1)).delay c.link.timeout = _
  omega

theorem performAll_cons :
    c.performAll (op :: ops) =
      ((c.perform op).1 :: ((c.perform op).2.performAll ops).1, ((c.perform op).2.performAll ops).2) :=
  rfl

theorem link_performAll : (c.performAll ops).2.link = c.link := by
  induction ops generalizing c with
  | nil => rfl
  | cons op ops ih => exact ih (c.perform op).2

theorem script_performAll : (c.performAll ops).2.wire.script = c.wire.script.drop ops.length := by
  induction ops generalizing c with
  | nil => rfl
  | cons op ops ih =>
    have used : (c.perform op).2.wire.script = _ := (c.link.exchanges_perform c.wire op).script
    rw [performAll_cons, ih, used, List.length_cons, List.drop_tail]

theorem now_performAll : (c.performAll ops).2.wire.now = c.timeAfter ops.length := by
  induction ops generalizing c with
  | nil => rfl
  | cons op ops ih => rw [performAll_cons, ih, timeAfter_perform, List.length_cons]

theorem calls_performAll : (c.performAll ops).2.wire.calls =
    c.wire.calls ++ ops.mapIdx fun k op => (c.timeAfter k, op.call) := by
  induction ops generalizing c with
  | nil => exact (List.append_nil _).symm
  | cons op ops ih =>
    have made : (c.perform op).2.wire.calls = _ := (c.link.exchanges_perform c.wire op).calls
    rw [performAll_cons, ih, made, List.mapIdx_cons, List.append_assoc]
    simp only [timeAfter_perform]
    rfl

theorem length_performAll : (c.performAll ops).1.length = ops.length := by
  induction ops generalizing c with
  | nil => rfl
  | cons op ops ih => rw [performAll_cons, List.length_cons, ih, List.length_cons]

theorem yields_performAll {k : Nat} (asked : ops[k]? = some op) :
    ∃ response, (c.performAll ops).1[k]? = some response ∧
      op.Yields c.link.timeout (c.wire.reply k) response := by
  induction ops generalizing c k with
  | nil => cases asked
  | cons first ops ih =>
    rw [performAll_cons]
    cases k with
    | zero =>
      cases asked
      exact ⟨_, rfl, c.reply_zero ▸ c.link.yields_perform c.wire op⟩
    | succ k =>
      obtain ⟨response, there, yields⟩ := ih (c.perform first).2 asked
      rw [reply_perform] at yields
      exact ⟨response, there, yields⟩

/-- What operations over a link come to that are carried out one after the other. -/
structure Independent : Prop where
  link : (c.performAll ops).2.link = c.link
  calls : (c.performAll ops).2.wire.calls =
    c.wire.calls ++ ops.mapIdx fun k op => (c.timeAfter k, op.call)
  script : (c.performAll ops).2.wire.script = c.wire.script.drop ops.length
  now : (c.performAll ops).2.wire.now = c.timeAfter ops.length
  length : (c.performAll ops).1.length = ops.length
  yields : ∀ {k op}, ops[k]? = some op → ∃ response, (c.performAll ops).1[k]? = some response ∧
    op.Yields c.link.timeout (c.wire.reply k) response ∧
    (∀ other, op.Yields c.link.timeout (c.wire.reply k) other → other = response) ∧
    (op ≠ .liveness → ((∃ operation, response.failure? = some (.timeout operation)) ↔
      c.link.timeout < (c.wire.reply k).delay)) ∧
    (op = .liveness → c.link.timeout < (c.wire.reply k).delay → response = .alive false)
  alone : ∀ {k k' op} (c' : Connection) (ops' : List Operation), ops[k]? = some op → ops'[k']? = some op →
    c'.link.timeout = c.link.timeout → c'.wire.reply k' = c.wire.reply k →
    (c'.performAll ops').1[k']? = (c.performAll ops).1[k]?

/--
Operations over a link make one call each, use up one reply each, within the timeout, and each of them comes
to what the reply to its own call says; nothing else has any influence on it.
-/
theorem operations_independent : c.Independent ops := by
  constructor
  case link => exact c.link_performAll ops
  case calls => exact c.calls_performAll ops
  case script => exact c.script_performAll ops
  case now => exact c.now_performAll ops
  case length => exact c.length_performAll ops
  case yields =>
    intro k op asked
    obtain ⟨response, there, yields⟩ := c.yields_performAll op ops asked
    refine ⟨response, there, yields, fun _ => yields.unique, yields.timeout_iff, ?_⟩
    rintro rfl late
    exact yields.dead_of_late late
  case alone =>
    intro k k' op c' ops' asked asked' timeout reply
    obtain ⟨response, there, yields⟩ := c.yields_performAll op ops asked
    obtain ⟨response', there', yields'⟩ := c'.yields_performAll op ops' asked'
    rw [timeout, reply] at yields'
    rw [there, there', yields.unique yields']

/--
A null, a failed receipt, the same too late, a balance in the last moment, two complaints, and a transfer
that is taken.
-/
theorem operations_independent_receipts :
    let reverted := Json.reverted (Json.zeros 32) (Json.zeros 20) (Json.zeros 256)
    let hash := "0x0000000000000000000000000000000000000000000000000000000000000009"
    let l : Link := ⟨⟨"anvil", 31337, 1, none, 7⟩, "http://localhost:8545", 1000, transferGas, 7⟩
    let c : Connection := ⟨l, .fresh [⟨0, .result .null⟩, ⟨5, .result reverted⟩, ⟨1001, .result reverted⟩,
      ⟨1000, .result (.string "0x64")⟩, ⟨0, .refusal "busy"⟩, ⟨0, .refusal "busy"⟩,
      ⟨7, .result (.string hash)⟩]⟩
    let receipt : Operation := .receipt ⟨5⟩
    let t : SignedTransfer := ⟨⟨⟨2⟩, 3, 0, 21000, 1⟩, ⟨1⟩, ⟨9⟩, []⟩
    let ops := [receipt, receipt, receipt, .balance ⟨2⟩ .latest, .gasPrice, .liveness, .broadcast t]
    c.Independent ops ∧ (c.performAll ops).1 =
      [.mined (.error (.receiptNotFound (Digest.text ⟨5⟩))), .mined (.ok false),
        .mined (.error (.timeout "receipt")), .number (.ok 100),
        .number (.error (.query "gas price" "busy")), .alive false, .digest (.ok ⟨9⟩)] ∧
      (c.performAll ops).2.wire.now = 2012 := by
  intro reverted hash l c receipt t ops
  have failed : heardReceipt ⟨5⟩ (some (.result reverted)) = .ok false :=
    heardReceipt_of_receipt? Json.receipt?_reverted_zeros ⟨5⟩
  have independent := c.operations_independent ops
  refine ⟨independent, ?_, independent.now.trans (by decide)⟩
  clear_value reverted
  subst ops t receipt c l hash
  exact congrArg (fun answer => [_, Response.mined answer, _, _, _, _, _]) failed

end Connection

end GasFaucet
