import SelfConnect.Windows.Resolver
import SelfConnect.Python.Textwrap

namespace SelfConnect.Windows

open SelfConnect.Python

/-! The channel router: text for a terminal is posted to its window as `WM_CHAR` messages,
and the receipt says what became of them. -/

inductive ChannelType
  | wmChar
  | uia
  | pipe
  | deny
  deriving DecidableEq

structure RoutingDecision where
  hwnd : Int
  channel : ChannelType
  windowClass : Str
  windowTitle : Str
  pid : Int

structure TargetBinding where
  pid : Int
  exe : Str
  exePath : Str
  windowClass : Str
  titleSha256 : Str

structure ActionReceipt where
  receiptId : Str
  hwnd : Int
  channel : ChannelType
  payloadHash : Str
  readbackHash : Str
  success : Bool
  transportEnqueued : Bool
  deliveryConfirmed : Bool
  transportAttempted : Bool
  deliveryDisposition : String
  doNotRetry : Bool
  transportError : Str

/-- A message as `PostMessage` is given it, with its first parameter. -/
structure Message where
  message : Nat
  wparam : Nat
  deriving DecidableEq

def wmKeyDown : Nat := 0x0100
def wmKeyUp : Nat := 0x0101
def wmChar : Nat := 0x0102
def vkReturn : Nat := 0x0D

inductive PostOutcome
  | posted
  | returnsFalse
  | raises (error : Str)

/-- A report of the target verifier, its fields converted as they are read: `int(...)` may
raise, `str(...)` does not. The text of an exception is kept. -/
structure GuardReport where
  ok : Bool
  pid : Except Str Int
  exe : Str
  exePath : Str
  windowClass : Str
  title : Str

/-- What one call of `route` meets. The class of a window is read once when it is
classified, and again when the text is delivered. -/
structure Desktop where
  available : Bool
  receiptId : Str
  classAtRouting : Int → Str
  classAtDelivery : Int → Str
  title : Int → Str
  pid : Int → Int
  children : Int → Except Str (List Int)
  /-- `int(GetParent(hwnd) or 0)`. -/
  parent : Int → Except Str Int
  verifyTarget : Int → Except Str GuardReport
  verifyInput : Int → Except Str GuardReport
  /-- The outcome of the `i`-th post. -/
  post : Nat → PostOutcome
  paths : Ntpath
  lower : Str → Str

def terminalClasses : List String :=
  ["CASCADIA_HOSTING_WINDOW_CLASS", "ConsoleWindowClass", "VirtualConsoleClass", "ConPTY",
    "mintty", "rxvt", "xterm"]

def browserClasses : List String :=
  ["Chrome_WidgetWin_1", "MozillaWindowClass", "ApplicationFrameWindow", "BrowserFrameView",
    "CabinetWClass"]

def sidecarClasses : List String :=
  ["SELFCONNECT_SIDECAR", "SCENT_CONTROL"]

def terminalHostClass : Str := .lit "CASCADIA_HOSTING_WINDOW_CLASS"

def terminalInputClass : Str := .lit "Windows.UI.Input.InputSite.WindowClass"

def maxPayloadLength : Nat := 4096

def isOneOf (windowClass : Str) (classes : List String) : Bool :=
  classes.any fun name => windowClass = .lit name

inductive RouteError
  | tooLong
  | emptyLease
  | denied
  | targetDenied
  | verifierRaised (error : Str)
  | unicodeEncode
  | inputSiteDenied
  deriving DecidableEq

namespace Desktop

variable (desktop : Desktop)

def channelOf (windowClass : Str) : ChannelType :=
  if isOneOf windowClass terminalClasses then .wmChar
  else if isOneOf windowClass browserClasses then .uia
  else if isOneOf windowClass sidecarClasses then .pipe
  else .deny

def classify (hwnd : Int) : RoutingDecision :=
  if hwnd < 1 then
    { hwnd, channel := .deny, windowClass := [], windowTitle := [], pid := 0 }
  else
    { hwnd
      channel := channelOf (desktop.classAtRouting hwnd)
      windowClass := desktop.classAtRouting hwnd
      windowTitle := desktop.title hwnd
      pid := desktop.pid hwnd }

def verifyFinalTarget (hwnd : Int) (expected : TargetBinding) : Except RouteError Unit :=
  match desktop.verifyTarget hwnd with
  | .error raised => .error (.verifierRaised raised)
  | .ok report =>
      if report.ok then
        match report.title.toText? with
        | none => .error .unicodeEncode
        | some title =>
            if Str.ofText (sha256Hex title) = expected.titleSha256 then .ok ()
            else .error .targetDenied
      else .error .targetDenied

/-- What delivery may run into: a denial, or another exception, which counts as a failed
transport. -/
inductive Failure
  | denied
  | raised (error : Str)

/-- The host among the 32 nearest ancestors. -/
def descends (host : Int) : Nat → Int → Except Failure Unit
  | 0, _ => .error .denied
  | steps + 1, current =>
      match desktop.parent current with
      | .error raised => .error (.raised raised)
      | .ok above =>
          if above = host then .ok ()
          else if above = 0 then .error .denied
          else descends host steps above

def verifyInputSite (host child : Int) (expected : TargetBinding) : Except Failure Unit :=
  match desktop.verifyInput child with
  | .error raised => .error (.raised raised)
  | .ok report =>
      if report.ok then
        match report.pid with
        | .error raised => .error (.raised raised)
        | .ok pid =>
            if pid = expected.pid ∧ desktop.lower report.exe = desktop.lower expected.exe ∧
                desktop.paths.normcase (desktop.paths.abspath report.exePath) =
                  desktop.paths.normcase (desktop.paths.abspath expected.exePath) ∧
                report.windowClass = terminalInputClass then
              desktop.descends host 32 child
            else .error .denied
      else .error .denied

/-- The window the messages go to, none if a terminal host has no input site. -/
def deliveryWindow (hwnd : Int) (expected : Option TargetBinding) :
    Except Failure (Option Int) :=
  if desktop.classAtDelivery hwnd = terminalHostClass then
    match desktop.children hwnd with
    | .error raised => .error (.raised raised)
    | .ok children =>
        match children.filter fun child => desktop.classAtDelivery child = terminalInputClass with
        | [] => .ok none
        | site :: _ =>
            match expected with
            | none => .ok (some site)
            | some binding => (desktop.verifyInputSite hwnd site binding).map fun _ => some site
  else .ok (some hwnd)

end Desktop

def isReturn (c : CodePoint) : Bool :=
  c.val = 0x0D || c.val = 0x0A

def enter : List Message :=
  [⟨wmKeyDown, vkReturn⟩, ⟨wmKeyUp, vkReturn⟩]

/-- The messages for one character of the text. -/
def characterMessages (c : CodePoint) : List Message :=
  if isReturn c then enter else [⟨wmChar, c.val⟩]

/-- The messages posted before the first failure, and the failure. -/
def postAll (post : Nat → PostOutcome) : Nat → List Message → List Message × Option Str
  | _, [] => ([], none)
  | i, message :: rest =>
      match post i with
      | .posted => (message :: (postAll post (i + 1) rest).1, (postAll post (i + 1) rest).2)
      | .returnsFalse => ([], some (.lit "PostMessage returned failure"))
      | .raises error => ([], some error)

/-- How `_inject_wm_char` ends: with its result, with `PartialTransportError` after so many
messages, or with a denial. -/
inductive Injection
  | done (success : Bool)
  | stopped (error : Str) (messagesPosted : Nat)
  | denied

def Desktop.injectWmChar (desktop : Desktop) (hwnd : Int) (text : Str)
    (expected : Option TargetBinding) : Injection × List Message :=
  if desktop.available then
    match desktop.deliveryWindow hwnd expected with
    | .error .denied => (.denied, [])
    | .error (.raised error) => (.stopped error 0, [])
    | .ok none => (.done false, [])
    | .ok (some _) =>
        let posted := postAll desktop.post 0 (text.flatMap characterMessages)
        match posted.2 with
        | none => (.done true, posted.1)
        | some error => (.stopped error posted.1.length, posted.1)
  else (.done false, [])

/-- The checks before anything is sent. -/
def Desktop.admit (desktop : Desktop) (hwnd : Int) (text : Str) (leaseId : Option Str)
    (expected : Option TargetBinding) : Except RouteError (ChannelType × Text) :=
  if maxPayloadLength < text.length then .error .tooLong
  else if leaseId.any fun lease => lease.all Textwrap.isSpace then .error .emptyLease
  else
    let decision := desktop.classify hwnd
    if decision.channel = .deny then .error .denied
    else
      match expected.elim (.ok ()) (desktop.verifyFinalTarget hwnd) with
      | .error raised => .error raised
      | .ok () =>
          match text.toText? with
          | none => .error .unicodeEncode
          | some payload => .ok (decision.channel, payload)

def receiptOf (desktop : Desktop) (hwnd : Int) (channel : ChannelType) (payload : Text)
    (success attempted doNotRetry : Bool) (disposition : String) (transportError : Str) :
    ActionReceipt :=
  { receiptId := desktop.receiptId
    hwnd
    channel
    payloadHash := .ofText (sha256Hex payload)
    readbackHash := []
    success
    transportEnqueued := success
    deliveryConfirmed := false
    transportAttempted := attempted
    deliveryDisposition := disposition
    doNotRetry
    transportError }

def succeeded (desktop : Desktop) (hwnd : Int) (channel : ChannelType) (payload : Text) :
    ActionReceipt :=
  receiptOf desktop hwnd channel payload true true false "enqueued_unconfirmed" []

def notAttempted (desktop : Desktop) (hwnd : Int) (channel : ChannelType) (payload : Text)
    (transportError : Str) : ActionReceipt :=
  receiptOf desktop hwnd channel payload false false false "not_attempted" transportError

/-- The result of a call and the messages it posted. The other channels are stubs. -/
def Desktop.route (desktop : Desktop) (hwnd : Int) (text : Str) (leaseId : Option Str)
    (expected : Option TargetBinding) : Except RouteError ActionReceipt × List Message :=
  match desktop.admit hwnd text leaseId expected with
  | .error raised => (.error raised, [])
  | .ok (.wmChar, payload) =>
      let injection := desktop.injectWmChar hwnd text expected
      match injection.1 with
      | .denied => (.error .inputSiteDenied, injection.2)
      | .done true => (.ok (succeeded desktop hwnd .wmChar payload), injection.2)
      | .done false => (.ok (notAttempted desktop hwnd .wmChar payload []), injection.2)
      | .stopped error 0 => (.ok (notAttempted desktop hwnd .wmChar payload error), injection.2)
      | .stopped error (_ + 1) =>
          (.ok (receiptOf desktop hwnd .wmChar payload false true true "unknown_delivery" error),
            injection.2)
  | .ok (channel, payload) => (.ok (notAttempted desktop hwnd channel payload []), [])

/-! What has to arrive: a window system that works in UTF-16 code units takes one
`WM_CHAR` for each of them. -/

def keystrokes (text : Str) : List Message :=
  (text.flatMap CodePoint.units).flatMap characterMessages

/-- What was posted is a beginning of the keystrokes, and the receipt says how much. -/
def Delivered (text : Str) (routed : Except RouteError ActionReceipt × List Message) : Prop :=
  ∃ receipt, routed.1 = .ok receipt ∧ routed.2 <+: keystrokes text ∧
    (receipt.success = true ↔ routed.2 = keystrokes text) ∧
    (receipt.doNotRetry = true ↔ routed.2 ≠ [] ∧ routed.2 ≠ keystrokes text)

/-- The router takes the text for a terminal, and finds the window to deliver it to. -/
structure Accepts (desktop : Desktop) (hwnd : Int) (text : Str) (leaseId : Option Str)
    (expected : Option TargetBinding) : Prop where
  available : desktop.available = true
  admitted : ∃ payload, desktop.admit hwnd text leaseId expected = .ok (.wmChar, payload)
  found : ∃ window, desktop.deliveryWindow hwnd expected = .ok (some window)

def isBmp (c : CodePoint) : Bool :=
  c.val < 0x10000

/-- No character lies beyond the basic plane, or a post fails before one would be posted. -/
def StopsInTime (desktop : Desktop) (text : Str) : Prop :=
  (∀ c ∈ text, isBmp c = true) ∨
    ∃ i ≤ ((text.takeWhile isBmp).flatMap characterMessages).length, desktop.post i ≠ .posted

theorem postAll_prefix (post : Nat → PostOutcome) (i : Nat) (messages : List Message) :
    (postAll post i messages).1 <+: messages := by
  induction messages generalizing i with
  | nil => exact List.prefix_refl []
  | cons message rest ih =>
      rw [postAll]
      split
      · exact List.cons_prefix_cons.mpr ⟨rfl, ih (i + 1)⟩
      · exact List.nil_prefix
      · exact List.nil_prefix

theorem postAll_posted {post : Nat → PostOutcome} {i : Nat} {messages : List Message} {j : Nat}
    (within : j < (postAll post i messages).1.length) : post (i + j) = .posted := by
  induction messages generalizing i j with
  | nil => cases within
  | cons message rest ih =>
      rw [postAll] at within
      split at within
      · next posted =>
          cases j with
          | zero => exact posted
          | succ j =>
              rw [List.length_cons, Nat.add_lt_add_iff_right] at within
              rw [← ih within, Nat.add_right_comm, Nat.add_assoc]
      · cases within
      · cases within

/-- Nothing failed, or the post after the last message did. -/
theorem postAll_end (post : Nat → PostOutcome) (i : Nat) (messages : List Message) :
    ((postAll post i messages).2 = none ∧ (postAll post i messages).1 = messages) ∨
      ∃ error, (postAll post i messages).2 = some error ∧
        (postAll post i messages).1.length < messages.length ∧
        post (i + (postAll post i messages).1.length) ≠ .posted := by
  induction messages generalizing i with
  | nil => exact Or.inl ⟨rfl, rfl⟩
  | cons message rest ih =>
      rw [postAll]
      split
      · next posted =>
          rcases ih (i + 1) with ⟨none, all⟩ | ⟨error, failed, short, unposted⟩
          · exact Or.inl ⟨none, congrArg (message :: ·) all⟩
          · refine Or.inr ⟨error, failed, ?_, ?_⟩
            · rw [List.length_cons, List.length_cons]
              exact Nat.add_lt_add_right short 1
            · rwa [List.length_cons, ← Nat.add_assoc, Nat.add_right_comm]
      · next fails =>
          exact Or.inr ⟨_, rfl, Nat.succ_pos _, by rw [List.length_nil, Nat.add_zero, fails]; simp⟩
      · next fails =>
          exact Or.inr ⟨_, rfl, Nat.succ_pos _, by rw [List.length_nil, Nat.add_zero, fails]; simp⟩

section Route

variable {desktop : Desktop} {hwnd : Int} {text : Str} {leaseId : Option Str}
  {expected : Option TargetBinding}

def posted (desktop : Desktop) (text : Str) : List Message :=
  (postAll desktop.post 0 (text.flatMap characterMessages)).1

/-- The receipt of an accepted text goes by what the router meant to post. -/
theorem route_of_accepts (accepts : Accepts desktop hwnd text leaseId expected) :
    ∃ receipt, desktop.route hwnd text leaseId expected = (.ok receipt, posted desktop text) ∧
      (receipt.success = true ↔ posted desktop text = text.flatMap characterMessages) ∧
      (receipt.doNotRetry = true ↔ posted desktop text ≠ [] ∧
        posted desktop text ≠ text.flatMap characterMessages) := by
  obtain ⟨payload, admitted⟩ := accepts.admitted
  obtain ⟨window, found⟩ := accepts.found
  rw [Desktop.route, admitted]
  dsimp only
  rw [Desktop.injectWmChar, accepts.available, if_pos rfl, found]
  dsimp only
  rcases postAll_end desktop.post 0 (text.flatMap characterMessages) with ⟨none, all⟩ |
    ⟨error, failed, short, -⟩
  · rw [none]
    refine ⟨_, rfl, ?_, ?_⟩
    · exact iff_of_true rfl all
    · exact iff_of_false Bool.false_ne_true fun both => both.2 all
  · rw [failed]
    have differs : posted desktop text ≠ text.flatMap characterMessages :=
      fun all => Nat.ne_of_lt short (congrArg List.length all)
    cases count : (postAll desktop.post 0 (text.flatMap characterMessages)).1.length with
    | zero =>
        have empty : posted desktop text = [] := List.length_eq_zero_iff.mp count
        refine ⟨_, rfl, ?_, ?_⟩
        · exact iff_of_false Bool.false_ne_true differs
        · exact iff_of_false Bool.false_ne_true fun both => both.1 empty
    | succ n =>
        have nonempty : posted desktop text ≠ [] := by
          intro empty
          rw [posted] at empty
          rw [empty] at count
          cases count
        refine ⟨_, rfl, ?_, ?_⟩
        · exact iff_of_false Bool.false_ne_true differs
        · exact iff_of_true rfl ⟨nonempty, differs⟩

theorem flatMap_units_of_bmp {front : Str} (bmp : ∀ c ∈ front, isBmp c = true) :
    front.flatMap CodePoint.units = front := by
  induction front with
  | nil => rfl
  | cons c rest ih =>
      have small : c.val < 0x10000 := by simpa [isBmp] using bmp c List.mem_cons_self
      rw [List.flatMap_cons, CodePoint.units_of_lt small,
        ih fun d member => bmp d (List.mem_cons_of_mem c member)]
      rfl

theorem keystrokes_of_bmp (bmp : ∀ c ∈ text, isBmp c = true) :
    keystrokes text = text.flatMap characterMessages := by
  rw [keystrokes, flatMap_units_of_bmp bmp]

theorem characterMessages_of_large {c : CodePoint} (large : 0x10 ≤ c.val) :
    characterMessages c = [⟨wmChar, c.val⟩] := by
  have other : isReturn c = false := by
    simp only [isReturn, Bool.or_eq_false_iff, decide_eq_false_iff_not]
    omega
  rw [characterMessages, other]
  rfl

/-- Where the first character beyond the basic plane comes, the router posts its code
point and not the first half of its surrogate pair. -/
theorem messages_of_astral {front back : Str} {c : CodePoint}
    (bmp : ∀ d ∈ front, isBmp d = true) (astral : isBmp c = false) :
    ∃ high rest rest', high < 0x10000 ∧
      (front ++ c :: back).flatMap characterMessages =
        front.flatMap characterMessages ++ ⟨wmChar, c.val⟩ :: rest ∧
      keystrokes (front ++ c :: back) =
        front.flatMap characterMessages ++ ⟨wmChar, high⟩ :: rest' := by
  have large : ¬ c.val < 0x10000 := by simpa [isBmp] using astral
  obtain ⟨high, low, units, isHigh, -, -⟩ := CodePoint.units_of_ge large
  simp only [CodePoint.isHighSurrogate, Bool.and_eq_true, decide_eq_true_eq] at isHigh
  refine ⟨high.val, back.flatMap characterMessages,
    characterMessages low ++ (back.flatMap CodePoint.units).flatMap characterMessages,
    by omega, ?_, ?_⟩
  · rw [List.flatMap_append, List.flatMap_cons, characterMessages_of_large (by omega)]
    rfl
  · rw [keystrokes, List.flatMap_append, flatMap_units_of_bmp bmp, List.flatMap_append,
      List.flatMap_cons, units, List.flatMap_append, List.flatMap_cons, List.flatMap_singleton,
      characterMessages_of_large (by omega)]
    simp

theorem exists_astral (other : ¬ ∀ c ∈ text, isBmp c = true) :
    ∃ front c back, text = front ++ c :: back ∧ (∀ d ∈ front, isBmp d = true) ∧
      isBmp c = false ∧ text.takeWhile isBmp = front := by
  refine ⟨text.takeWhile isBmp, ?_⟩
  have whole := @List.takeWhile_append_dropWhile _ isBmp text
  cases after : text.dropWhile isBmp with
  | nil =>
      refine absurd ?_ other
      rw [after, List.append_nil] at whole
      intro c member
      rw [← whole] at member
      exact List.mem_takeWhile_imp member
  | cons c back =>
      have first := List.head?_dropWhile_not isBmp text
      rw [after] at first whole
      exact ⟨c, back, whole.symm, fun d member => List.mem_takeWhile_imp member, first, rfl⟩

theorem posted_isPrefix (desktop : Desktop) (text : Str) :
    posted desktop text <+: text.flatMap characterMessages :=
  postAll_prefix _ _ _

theorem stopsInTime_of_delivered (accepts : Accepts desktop hwnd text leaseId expected)
    (delivered : Delivered text (desktop.route hwnd text leaseId expected)) :
    StopsInTime desktop text := by
  obtain ⟨receipt, routed, -, -⟩ := route_of_accepts accepts
  rw [routed] at delivered
  obtain ⟨-, -, arrived, -, -⟩ := delivered
  refine or_iff_not_imp_left.mpr fun beyondBmp => ?_
  obtain ⟨front, c, back, split, small, astral, isFront⟩ := exists_astral beyondBmp
  obtain ⟨high, rest, rest', isHigh, meant, wanted⟩ := messages_of_astral small astral
  have large : ¬ c.val < 0x10000 := by simpa [isBmp] using astral
  rw [← split] at meant wanted
  rw [isFront]
  by_contra never
  -- the code point itself was posted, and no keystroke is one
  have beyond : (front.flatMap characterMessages).length < (posted desktop text).length := by
    rcases postAll_end desktop.post 0 (text.flatMap characterMessages) with ⟨-, all⟩ |
      ⟨error, -, -, unposted⟩
    · rw [posted, all, meant]
      simp
    · by_contra short
      rw [Nat.zero_add] at unposted
      exact never ⟨_, Nat.le_of_not_lt short, unposted⟩
  have asMeant := List.prefix_iff_getElem?.mp (posted_isPrefix desktop text) _ beyond
  have asWanted := List.prefix_iff_getElem?.mp arrived _ beyond
  rw [meant, List.getElem?_append_right (Nat.le_refl _), Nat.sub_self] at asMeant
  rw [wanted, List.getElem?_append_right (Nat.le_refl _), Nat.sub_self] at asWanted
  have same := asMeant.trans asWanted.symm
  simp only [List.getElem?_cons_zero, Option.some.injEq, Message.mk.injEq, true_and] at same
  omega

theorem delivered_of_stopsInTime (accepts : Accepts desktop hwnd text leaseId expected)
    (stops : StopsInTime desktop text) :
    Delivered text (desktop.route hwnd text leaseId expected) := by
  obtain ⟨receipt, routed, success, doNotRetry⟩ := route_of_accepts accepts
  rw [routed]
  by_cases bmp : ∀ c ∈ text, isBmp c = true
  · refine ⟨receipt, rfl, ?_⟩
    rw [keystrokes_of_bmp bmp]
    exact ⟨posted_isPrefix desktop text, success, doNotRetry⟩
  · obtain ⟨front, c, back, split, small, astral, isFront⟩ := exists_astral bmp
    obtain ⟨high, rest, rest', isHigh, meant, wanted⟩ := messages_of_astral small astral
    rw [← split] at meant wanted
    obtain ⟨i, early, unposted⟩ := stops.resolve_left bmp
    rw [isFront] at early
    have short : (posted desktop text).length ≤ (front.flatMap characterMessages).length := by
      by_contra long
      have within : i < (posted desktop text).length := by omega
      have isPosted := postAll_posted within
      rw [Nat.zero_add] at isPosted
      exact unposted isPosted
    have inFront : posted desktop text <+: front.flatMap characterMessages :=
      List.prefix_of_prefix_length_le (posted_isPrefix desktop text)
        (by rw [meant]; exact List.prefix_append _ _) short
    have notMeant : posted desktop text ≠ text.flatMap characterMessages := by
      intro all
      rw [all, meant] at short
      simp at short
    have notWanted : posted desktop text ≠ keystrokes text := by
      intro all
      rw [all, wanted] at short
      simp at short
    refine ⟨receipt, rfl, ?_, ?_, ?_⟩
    · rw [wanted]
      exact inFront.trans (List.prefix_append _ _)
    · rw [success]
      exact iff_of_false notMeant notWanted
    · rw [doNotRetry]
      exact and_congr_right fun _ => iff_of_true notMeant notWanted

/-- An accepted text is delivered, and its receipt is right, exactly when no character
beyond the basic plane is posted. -/
theorem delivered_iff (accepts : Accepts desktop hwnd text leaseId expected) :
    Delivered text (desktop.route hwnd text leaseId expected) ↔ StopsInTime desktop text :=
  ⟨stopsInTime_of_delivered accepts, delivered_of_stopsInTime accepts⟩

end Route

/-- A console window that takes every message. -/
def console : Desktop where
  available := true
  receiptId := []
  classAtRouting := fun _ => .lit "ConsoleWindowClass"
  classAtDelivery := fun _ => .lit "ConsoleWindowClass"
  title := fun _ => []
  pid := fun _ => 7
  children := fun _ => .ok []
  parent := fun _ => .ok 0
  verifyTarget := fun _ => .error []
  verifyInput := fun _ => .error []
  post := fun _ => .posted
  paths := plainPaths
  lower := id

theorem accepts_console {text : Text} (short : text.length ≤ maxPayloadLength) :
    Accepts console 1 (.ofText text) none none := by
  have isTerminal : (console.classify 1).channel = .wmChar := by decide +kernel
  have bounded : ¬ maxPayloadLength < (Str.ofText text).length := by
    simpa [Str.ofText] using short
  have other : console.classAtDelivery 1 ≠ terminalHostClass := by
    simp [console, terminalHostClass]
  refine ⟨rfl, ⟨text, ?_⟩, ⟨1, ?_⟩⟩
  · simp [bounded, Desktop.admit, isTerminal, Str.toText?_ofText]
  · rw [Desktop.deliveryWindow, if_neg other]

theorem delivered_iff_dir :
    Delivered (.ofText ['d', 'i', 'r', '\r'])
        (console.route 1 (.ofText ['d', 'i', 'r', '\r']) none none) ↔
      StopsInTime console (.ofText ['d', 'i', 'r', '\r']) :=
  delivered_iff (accepts_console (by decide))

/-- An emoji is posted as one message with its code point. -/
theorem not_delivered_emoji :
    ¬ ∀ (desktop : Desktop) (hwnd : Int) (text : Str) (leaseId : Option Str)
      (expected : Option TargetBinding), text ≠ [] →
      Accepts desktop hwnd text leaseId expected →
      Delivered text (desktop.route hwnd text leaseId expected) := by
  intro delivered
  have accepts : Accepts console 1 (.ofText ['😀']) none none := accepts_console (by decide)
  rcases stopsInTime_of_delivered accepts (delivered _ _ _ _ _ (by decide) accepts) with bmp |
    ⟨i, -, unposted⟩
  · have small := bmp (.ofChar '😀') (by simp [Str.ofText])
    revert small
    decide
  · exact unposted rfl

end SelfConnect.Windows
