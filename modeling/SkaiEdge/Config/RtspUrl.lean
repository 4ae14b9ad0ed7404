import SkaiEdge.Config.Endpoint

/-!
# RTSP URLs accepted by `validate_video` (`src/config.cpp`)

The acceptor works by positions and hands host texts to `inet_pton` as C strings; `ipv4` and `ipv6`
are what `inet_pton` accepts. `RtspUrl` is the grammar the positions are compared with.
-/

namespace SkaiEdge.Config

open SkaiEdge.Lib

structure VideoConfig where
  rtspUrl : List Char := "rtsp://127.0.0.1/stream".toList
  username : List Char := []
  password : List Char := []
  transport : List Char := "tcp".toList
  latencyMs : Int := 100
  reconnectDelayMs : Int := 1000
  maxReconnectDelayMs : Int := 10000
  stallTimeoutMs : Int := 3000
  firstFrameTimeoutMs : Int := 15000
  deriving DecidableEq, Repr

section
variable (ipv4 ipv6 : List Char → Bool)

/-- The loop over the labels of a host name; each turn moves behind a later dot. -/
def labelLoop (host : List Char) : Nat → Nat → Bool
  | 0, _ => false
  | turns + 1, start =>
    if start < host.length then
      let stop := Text.find host '.' start
      let length := stop.getD host.length - start
      if length = 0 || decide (length > 63) || !host[start]?.any Char.isAlphanum ||
          !host[start + length - 1]?.any Char.isAlphanum then false
      else if ((host.drop start).take length).any (fun c => !c.isAlphanum && c ≠ '-') then false
      else
        match stop with
        | none => true
        | some stop => labelLoop host turns (stop + 1)
    else false

def validHostname (host : List Char) : Bool :=
  if host.isEmpty || decide (host.length > 253) then false
  else if host.contains '.' && host.all fun c => "0123456789.".toList.contains c then
    ipv4 (Text.cString host)
  else labelLoop host (host.length + 1) 0

/-- The part of an authority behind its `@`. -/
def hostPort (authority : List Char) : List Char :=
  authority.drop ((Text.findLastOf authority '@').elim 0 (· + 1))

def validHostPort (hostPort : List Char) : Bool :=
  if hostPort.isEmpty then false
  else if hostPort.head? = some '[' then
    match Text.find hostPort ']' 0 with
    | none => false
    | some close =>
      if !ipv6 (Text.cString ((hostPort.drop 1).take (close - 1))) then false
      else if close + 1 = hostPort.length then true
      else hostPort[close + 1]? = some ':' && validPort (hostPort.drop (close + 2))
  else
    let colon := Text.find hostPort ':' 0
    validHostname ipv4 (Text.upTo hostPort colon) &&
      colon.all fun colon => validPort (hostPort.drop (colon + 1))

def validRtspAuthority (authority : List Char) : Bool :=
  if (Text.findLastOf authority '@').any
      fun sign => sign = 0 || Text.find authority '@' 0 ≠ some sign then false
  else validHostPort ipv4 ipv6 (hostPort authority)

/-- The authority that `validate_video` cuts out. -/
def rtspAuthority (url : List Char) : List Char :=
  if url.length ≥ 7 then
    Text.upTo (url.drop 7) ((url.drop 7).findIdx? fun c => "/?#".toList.contains c)
  else []

def checkRtspUrl (url : List Char) : Except String Unit :=
  checkRange ("rtsp://".toList.isPrefixOf url && validRtspAuthority ipv4 ipv6 (rtspAuthority url) &&
      !url.any fun c => " \t\r\n".toList.contains c)
    "video.rtsp_url" "must be a rtsp:// URL with a valid host and optional port"

def validateVideo (video : VideoConfig) : Except String Unit := do
  checkRtspUrl ipv4 ipv6 video.rtspUrl
  checkRange (video.transport = "tcp".toList || video.transport = "udp".toList)
    "video.transport" "must be tcp or udp"
  checkRange (video.password.isEmpty || !video.username.isEmpty)
    "video.username" "must be set when video.password is set"
  checkRange (decide (0 ≤ video.latencyMs) && decide (video.latencyMs ≤ 10000))
    "video.latency_ms" "must be between 0 and 10000"
  checkRange (decide (1 ≤ video.reconnectDelayMs) && decide (video.reconnectDelayMs ≤ 60000))
    "video.reconnect_delay_ms" "must be between 1 and 60000"
  checkRange (decide (video.reconnectDelayMs ≤ video.maxReconnectDelayMs) &&
      decide (video.maxReconnectDelayMs ≤ 60000))
    "video.max_reconnect_delay_ms" "must be between video.reconnect_delay_ms and 60000"
  checkRange (decide (1 ≤ video.stallTimeoutMs) && decide (video.stallTimeoutMs ≤ 60000))
    "video.stall_timeout_ms" "must be between 1 and 60000"
  checkRange (decide (100 ≤ video.firstFrameTimeoutMs) &&
      decide (video.firstFrameTimeoutMs ≤ 120000))
    "video.first_frame_timeout_ms" "must be between 100 and 120000"

end

/-! ## The grammar -/

structure Label (label : List Char) : Prop where
  nonempty : 1 ≤ label.length
  short : label.length ≤ 63
  characters : ∀ c ∈ label, c.isAlphanum = true ∨ c = '-'
  start : label.head? ≠ some '-'
  finish : label.getLast? ≠ some '-'

structure HostName (host : List Char) : Prop where
  short : host.length ≤ 253
  labels : ∀ label ∈ host.splitOn '.', Label label

/-- Digits and dots, with a dot among them. -/
structure DottedNumeric (host : List Char) : Prop where
  dotted : '.' ∈ host
  numeric : ∀ c ∈ host, c.isDigit = true ∨ c = '.'

structure Port (text : List Char) : Prop where
  nonempty : text ≠ []
  digits : ∀ c ∈ text, c.isDigit = true
  least : 1 ≤ text.foldl (fun value c => value * 10 + (c.toNat - '0'.toNat)) 0
  greatest : text.foldl (fun value c => value * 10 + (c.toNat - '0'.toNat)) 0 ≤ 65535

/-- What stands in front of a host: nothing, or a text and `@`. -/
def UserInfo (userinfo : List Char) : Prop :=
  userinfo = [] ∨ ∃ info, info ≠ [] ∧ '@' ∉ info ∧ userinfo = info ++ ['@']

/-- What stands behind a host: nothing, or `:` and a port. -/
def PortPart (port : List Char) : Prop := port = [] ∨ ∃ digits, Port digits ∧ port = ':' :: digits

section
variable (ipv4 ipv6 : List Char → Bool) (name : List Char → Prop) (inside : Char → Prop)

inductive Host : List Char → Prop where
  | ipv6 {address : List Char} : ipv6 address = true → Host ('[' :: (address ++ [']']))
  | ipv4 {host : List Char} : DottedNumeric host → ipv4 host = true → Host host
  | name {host : List Char} : HostName host → name host → Host host

inductive Authority : List Char → Prop where
  | mk {userinfo host port : List Char} : UserInfo userinfo → Host ipv4 ipv6 name host →
      PortPart port → Authority (userinfo ++ (host ++ port))

/-- `name` is a further condition on host names and `inside` one on the authority's characters. -/
structure RtspUrl (url : List Char) : Prop where
  visible : ∀ c ∈ url, c ∉ [' ', '\t', '\r', '\n']
  shape : ∃ authority rest, url = "rtsp://".toList ++ (authority ++ rest) ∧
    Authority ipv4 ipv6 name authority ∧ (∀ c ∈ authority, inside c) ∧
    (rest = [] ∨ ∃ c tail, rest = c :: tail ∧ c ∈ ['/', '?', '#'])

end

/-! ## Host names -/

/-- The checks of one turn of `labelLoop`. -/
def labelOk (label : List Char) : Bool :=
  !(label.length = 0 || decide (label.length > 63) || !label.head?.any Char.isAlphanum ||
      !label.getLast?.any Char.isAlphanum) &&
    !label.any fun c => !c.isAlphanum && c ≠ '-'

theorem labelOk_eq_true {label : List Char} : labelOk label = true ↔
    label.length ≠ 0 ∧ label.length ≤ 63 ∧ label.head?.any Char.isAlphanum = true ∧
      label.getLast?.any Char.isAlphanum = true ∧
      ∀ c ∈ label, c.isAlphanum = true ∨ c = '-' := by
  simp only [labelOk, Bool.and_eq_true, Bool.not_eq_true', Bool.or_eq_false_iff,
    decide_eq_false_iff_not, List.any_eq_false, Bool.not_eq_false', not_lt, gt_iff_lt,
    and_assoc, ne_eq]
  simp only [not_and, not_not, decide_eq_true_eq]
  refine and_congr_right fun _ => and_congr_right fun _ => and_congr_right fun _ =>
    and_congr_right fun _ => forall₂_congr fun c _ => ?_
  cases c.isAlphanum <;> simp

theorem labelOk_iff {label : List Char} : labelOk label = true ↔ Label label := by
  have ends : ∀ {c : Char}, c.isAlphanum = true ∨ c = '-' → (c.isAlphanum = true ↔ c ≠ '-') := by
    rintro c (letter | rfl)
    · exact iff_of_true letter (by rintro rfl; simp [Char.isAlphanum, Char.isAlpha] at letter)
    · decide
  rw [labelOk_eq_true]
  constructor
  · rintro ⟨nonempty, short, start, finish, characters⟩
    refine ⟨by omega, short, characters, fun hyphen => ?_, fun hyphen => ?_⟩
    · rw [hyphen] at start
      simp [Char.isAlphanum, Char.isAlpha] at start
    · rw [hyphen] at finish
      simp [Char.isAlphanum, Char.isAlpha] at finish
  · intro label_ok
    have nonempty : label ≠ [] := by
      rintro rfl
      simpa using label_ok.nonempty
    have start := label_ok.start
    have finish := label_ok.finish
    rw [List.head?_eq_some_head nonempty] at start ⊢
    rw [List.getLast?_eq_some_getLast nonempty] at finish ⊢
    have first := label_ok.characters _ (List.head_mem nonempty)
    have last := label_ok.characters _ (List.getLast_mem nonempty)
    refine ⟨by simpa using nonempty, label_ok.short, (ends first).2 ?_, (ends last).2 ?_,
      label_ok.characters⟩
    · simpa using start
    · simpa using finish

/-- One turn of the loop, in front of a label and what follows it. -/
theorem labelLoop_turn {before label tail : List Char} (whole : '.' ∉ label)
    (follows : tail = [] ∨ ∃ rest, tail = '.' :: rest) (turns : Nat) :
    labelLoop (before ++ (label ++ tail)) (turns + 1) before.length =
      (labelOk label && (tail.isEmpty ||
        labelLoop (before ++ (label ++ tail)) turns (before.length + label.length + 1))) := by
  have search := Text.find_append before (label ++ tail) '.'
  rw [Text.idxOf_append_of_not_mem tail whole] at search
  have stop : (Text.find (before ++ (label ++ tail)) '.' before.length).getD
      (before ++ (label ++ tail)).length - before.length = label.length := by
    rw [search]
    obtain rfl | ⟨rest, rfl⟩ := follows
    · simp
    · simp [List.idxOf?_cons]
  have cut : ((before ++ (label ++ tail)).drop before.length).take label.length = label := by
    rw [List.drop_left, List.take_left]
  rw [labelLoop]
  simp only [stop, cut]
  by_cases empty : label = []
  · subst empty
    have bad : labelOk [] = false := rfl
    rw [bad]
    simp
  · have positive : 0 < label.length := List.length_pos_iff.2 empty
    have first : (before ++ (label ++ tail))[before.length]? = label.head? := by
      rw [List.getElem?_append_right (Nat.le_refl _), Nat.sub_self,
        List.getElem?_append_left positive, List.head?_eq_getElem?]
    have last : (before ++ (label ++ tail))[before.length + label.length - 1]? =
        label.getLast? := by
      rw [List.getElem?_append_right (by omega), List.getElem?_append_left (by omega),
        List.getLast?_eq_getElem?]
      congr 1
      omega
    have inside : before.length < (before ++ (label ++ tail)).length := by
      simp only [List.length_append]
      omega
    rw [if_pos inside, first, last, labelOk]
    -- The length and the ends are tested first, then every character.
    generalize label.any (fun c => !c.isAlphanum && c ≠ '-') = bad
    generalize (label.length = 0 || decide (label.length > 63) ||
      !label.head?.any Char.isAlphanum || !label.getLast?.any Char.isAlphanum : Bool) = wrong
    cases wrong with
    | true => rfl
    | false =>
      cases bad with
      | true => rfl
      | false =>
        rw [search]
        obtain rfl | ⟨rest, rfl⟩ := follows
        · simp
        · simp [List.idxOf?_cons]

/-- **The loop checks the labels between the dots.** -/
theorem labelLoop_eq (turns : Nat) (before text : List Char) (enough : text.length < turns) :
    labelLoop (before ++ text) turns before.length = (text.splitOn '.').all labelOk := by
  induction turns generalizing before text with
  | zero => omega
  | succ turns ih =>
    by_cases more : '.' ∈ text
    · obtain ⟨label, rest, rfl, whole⟩ := List.eq_append_cons_of_mem more
      rw [labelLoop_turn whole (.inr ⟨rest, rfl⟩), List.splitOn_append_cons_self_of_not_mem whole,
        List.all_cons]
      have shape : before ++ (label ++ '.' :: rest) = (before ++ label ++ ['.']) ++ rest := by simp
      have width : before.length + label.length + 1 = (before ++ label ++ ['.']).length := by
        simp only [List.length_append, List.length_singleton]
      have shorter : rest.length < turns := by
        simp only [List.length_append, List.length_cons] at enough
        omega
      rw [shape, width, ih _ rest shorter]
      rfl
    · have turn := @labelLoop_turn before text [] more (.inl rfl) turns
      rw [List.append_nil] at turn
      rw [turn, List.splitOn_eq_singleton more]
      simp

theorem digit_mem {c : Char} (digit : c.isDigit = true) :
    c ∈ ['0', '1', '2', '3', '4', '5', '6', '7', '8', '9'] := by
  simp only [Char.isDigit, Bool.and_eq_true, decide_eq_true_eq] at digit
  have least : 48 ≤ c.toNat := UInt32.le_iff_toNat_le.1 digit.1
  have greatest : c.toNat ≤ 57 := UInt32.le_iff_toNat_le.1 digit.2
  rw [← Char.ofNat_toNat c]
  generalize c.toNat = n at *
  interval_cases n <;> decide

theorem numeric_iff {c : Char} : "0123456789.".toList.contains c = true ↔
    c.isDigit = true ∨ c = '.' := by
  have list : "0123456789.".toList = ['0', '1', '2', '3', '4', '5', '6', '7', '8', '9', '.'] := rfl
  rw [list, List.contains_iff_mem]
  constructor
  · intro member
    fin_cases member <;> decide
  · rintro (digit | rfl)
    · exact List.mem_append_left ['.'] (digit_mem digit)
    · decide

theorem dottedNumeric_iff {host : List Char} :
    (host.contains '.' && host.all fun c => "0123456789.".toList.contains c) = true ↔
      DottedNumeric host := by
  rw [Bool.and_eq_true, List.all_eq_true, List.contains_iff_mem]
  simp only [numeric_iff]
  exact ⟨fun ⟨dotted, numeric⟩ => ⟨dotted, numeric⟩, fun host => ⟨host.dotted, host.numeric⟩⟩

/-- A host name is all digits and dots and an address, or it is not so and has good labels. -/
theorem validHostname_iff {ipv4 : List Char → Bool}
    (form4 : ∀ text, ipv4 text = true → text.length ≤ 15) (host : List Char) :
    validHostname ipv4 host = true ↔
      DottedNumeric host ∧ ipv4 host = true ∨ HostName host ∧ ¬DottedNumeric host := by
  have loop := labelLoop_eq (host.length + 1) [] host (by omega)
  rw [List.nil_append, List.length_nil] at loop
  have labels : (host.splitOn '.').all labelOk = true ↔ ∀ label ∈ host.splitOn '.', Label label := by
    simp only [List.all_eq_true, labelOk_iff]
  have nonempty : (∀ label ∈ host.splitOn '.', Label label) → host ≠ [] := by
    rintro all rfl
    simpa using (all [] (by simp)).nonempty
  have numeric_only := @dottedNumeric_iff host
  unfold validHostname
  by_cases dotted : DottedNumeric host
  · have whole : '\x00' ∉ host := by
      intro member
      simpa [Char.isDigit] using dotted.numeric _ member
    have some_host : host.isEmpty = false := by
      cases host with
      | nil => simpa using dotted.dotted
      | cons c host => rfl
    rw [if_pos (numeric_only.2 dotted), Text.cString_eq whole, some_host, Bool.false_or]
    by_cases long : host.length > 253
    · have no_address : ipv4 host ≠ true := fun address => by
        have := form4 host address
        omega
      simp [long, dotted, no_address]
    · simp [long, dotted]
  · rw [if_neg (mt numeric_only.1 dotted), loop]
    by_cases long : host.length > 253
    · have no_name : ¬HostName host := fun name => by
        have := name.short
        omega
      simp [long, dotted, no_name]
    · have name_iff : HostName host ↔ ∀ label ∈ host.splitOn '.', Label label :=
        ⟨fun name => name.labels, fun all => ⟨by omega, all⟩⟩
      cases empty : host.isEmpty with
      | true =>
        have none : ¬HostName host := fun name => nonempty name.labels (by simpa using empty)
        simp [dotted, none]
      | false => simp only [long, dotted, decide_false, Bool.or_self, Bool.false_eq_true, if_false,
          labels, name_iff, false_and, not_false_eq_true, and_true, false_or]

/-! ## Ports and hosts -/

theorem validPort_iff {text : List Char} : validPort text = true ↔ Port text := by
  by_cases digits : ∀ c ∈ text, c.isDigit = true
  · have taken : text.takeWhile Char.isDigit = text := List.takeWhile_eq_self_iff.2 digits
    have rest : text.dropWhile Char.isDigit = [] := List.dropWhile_eq_nil_iff.2 digits
    simp only [validPort, fromChars, taken, rest]
    by_cases none : text = [] ∨
        text.foldl (fun value c => value * 10 + (c.toNat - '0'.toNat)) 0 ≥ 2 ^ 32
    · rw [if_pos none]
      refine iff_of_false (by simp) fun port => ?_
      obtain empty | large := none
      · exact port.nonempty empty
      · have := port.greatest
        omega
    · rw [if_neg none]
      simp only [Bool.and_eq_true, decide_eq_true_eq]
      rw [not_or] at none
      exact ⟨fun ⟨least, greatest⟩ => ⟨none.1, digits, least, greatest⟩,
        fun port => ⟨port.least, port.greatest⟩⟩
  · refine iff_of_false (fun accepted => ?_) fun port => digits port.digits
    unfold validPort at accepted
    split at accepted
    · next port parsed =>
      simp only [fromChars] at parsed
      split at parsed
      · cases parsed
      · exact digits (List.dropWhile_eq_nil_iff.1 (congrArg Prod.snd (Option.some.inj parsed)))
    · cases accepted

section
variable {ipv4 ipv6 : List Char → Bool}

theorem hostName_plain {host : List Char} (name : HostName host) :
    ∀ c ∈ host, c.isAlphanum = true ∨ c = '-' ∨ c = '.' := by
  intro c member
  obtain rfl | ⟨label, part, inside⟩ := @Text.mem_splitOn _ _ host '.' c member
  · exact .inr (.inr rfl)
  · obtain letter | hyphen := (name.labels label part).characters c inside
    · exact .inl letter
    · exact .inr (.inl hyphen)

/-- A host is in brackets, or it has letters, digits, hyphens and dots only. -/
theorem host_cases {name : List Char → Prop} {host : List Char}
    (valid : Host ipv4 ipv6 name host) :
    (∃ address, ipv6 address = true ∧ host = '[' :: (address ++ [']'])) ∨
    host ≠ [] ∧ ∀ c ∈ host, c.isAlphanum = true ∨ c = '-' ∨ c = '.' := by
  cases valid with
  | ipv6 address => exact .inl ⟨_, address, rfl⟩
  | ipv4 dotted _ =>
    refine .inr ⟨List.ne_nil_of_mem dotted.dotted, fun c member => ?_⟩
    obtain digit | dot := dotted.numeric c member
    · exact .inl (by simp [Char.isAlphanum, digit])
    · exact .inr (.inr dot)
  | name good _ =>
    refine .inr ⟨?_, hostName_plain good⟩
    rintro rfl
    simpa using (good.labels [] (by simp)).nonempty

theorem plain_ne {c d : Char} (plain : c.isAlphanum = true ∨ c = '-' ∨ c = '.')
    (other : (d.isAlphanum || d = '-' || d = '.') = false) : c ≠ d := by
  rintro rfl
  simp only [Bool.or_eq_false_iff, decide_eq_false_iff_not] at other
  obtain letter | rfl | rfl := plain
  · rw [letter] at other
    cases other.1.1
  · exact other.1.2 rfl
  · exact other.2 rfl

theorem find_first {text behind : List Char} {c : Char} (first : c ∉ text) :
    Text.find (text ++ c :: behind) c 0 = some text.length := by
  have search := Text.find_append [] (text ++ c :: behind) c
  rw [Text.idxOf_append_stop behind first] at search
  simpa using search

theorem validHostPort_bracketed {address behind : List Char} (first : ']' ∉ address) :
    validHostPort ipv4 ipv6 ('[' :: (address ++ ']' :: behind)) = true ↔
      ipv6 (Text.cString address) = true ∧ PortPart behind := by
  have shape : '[' :: (address ++ ']' :: behind) = ('[' :: address) ++ ']' :: behind := rfl
  have close : Text.find ('[' :: (address ++ ']' :: behind)) ']' 0 = some (address.length + 1) := by
    rw [shape, find_first (by simpa using first)]
    rfl
  have cut : (('[' :: (address ++ ']' :: behind)).drop 1).take (address.length + 1 - 1) =
      address := by simp
  simp only [validHostPort, close, cut, List.isEmpty_cons, List.head?_cons, Bool.false_eq_true,
    if_false, if_true]
  cases accepted : ipv6 (Text.cString address) with
  | false => simp
  | true =>
    cases behind with
    | nil => simp [PortPart]
    | cons c digits =>
      have more : ¬address.length + 1 + 1 = ('[' :: (address ++ ']' :: c :: digits)).length := by
        simp
      have next : ('[' :: (address ++ ']' :: c :: digits))[address.length + 1 + 1]? = some c := by
        simp
      have rest : ('[' :: (address ++ ']' :: c :: digits)).drop (address.length + 1 + 2) =
          digits := by simp
      simp only [more, next, rest, PortPart, Bool.not_true, Bool.false_eq_true, if_false,
        Bool.and_eq_true, validPort_iff, true_and, Option.some.injEq, decide_eq_true_eq,
        List.cons_ne_nil, false_or]
      constructor
      · rintro ⟨rfl, port⟩
        exact ⟨digits, port, rfl⟩
      · rintro ⟨digits', port, same⟩
        obtain ⟨rfl, rfl⟩ := List.cons.inj same
        exact ⟨rfl, port⟩

theorem validHostPort_plain (form4 : ∀ text, ipv4 text = true → text.length ≤ 15)
    {text : List Char} (start : text.head? ≠ some '[') :
    validHostPort ipv4 ipv6 text = true ↔
      ∃ host port, text = host ++ port ∧ ':' ∉ host ∧
        (DottedNumeric host ∧ ipv4 host = true ∨ HostName host ∧ ¬DottedNumeric host) ∧
        PortPart port := by
  have reduced : validHostPort ipv4 ipv6 text =
      (validHostname ipv4 (Text.upTo text (Text.find text ':' 0)) &&
        (Text.find text ':' 0).all fun colon => validPort (text.drop (colon + 1))) := by
    cases text with
    | nil => rfl
    | cons c text => rw [validHostPort, if_neg (by simp), if_neg start]
  rw [reduced, Bool.and_eq_true, validHostname_iff form4]
  by_cases colon : ':' ∈ text
  · obtain ⟨host, digits, rfl, first⟩ := List.eq_append_cons_of_mem colon
    have rest : (host ++ ':' :: digits).drop (host.length + 1) = digits := by simp
    simp only [find_first first, Text.upTo, List.take_left, Option.all_some, rest, validPort_iff]
    constructor
    · rintro ⟨valid, port⟩
      exact ⟨host, ':' :: digits, rfl, first, valid, .inr ⟨digits, port, rfl⟩⟩
    · rintro ⟨host', port', same, first', valid, rfl | ⟨digits', port, rfl⟩⟩
      · rw [List.append_nil] at same
        exact absurd (same ▸ List.mem_append_right host (by simp)) first'
      · obtain ⟨rfl, rfl⟩ := Text.append_stop_inj first first' same
        exact ⟨valid, port⟩
  · simp only [Text.find_eq_none_iff.2 colon, Text.upTo, Option.all_none, and_true]
    constructor
    · intro valid
      exact ⟨text, [], by simp, colon, valid, .inl rfl⟩
    · rintro ⟨host, port, rfl, _, valid, rfl | ⟨digits, _, rfl⟩⟩
      · rwa [List.append_nil]
      · simp at colon

theorem validHostPort_unclosed {text : List Char} (unclosed : ']' ∉ text) :
    validHostPort ipv4 ipv6 ('[' :: text) = false := by
  have missing : Text.find ('[' :: text) ']' 0 = none :=
    Text.find_eq_none_iff.2 (by simpa using unclosed)
  simp [validHostPort, missing]

/-- `form4` and `form6` are what texts `inet_pton` takes for addresses. -/
theorem validHostPort_iff (form4 : ∀ text, ipv4 text = true → text.length ≤ 15)
    (form6 : ∀ text, ipv6 text = true → ∀ c ∈ text, c ∈ "0123456789abcdefABCDEF:.".toList)
    {text : List Char} (whole : ∀ address behind, text = '[' :: (address ++ ']' :: behind) →
      ']' ∉ address → '\x00' ∉ address) :
    validHostPort ipv4 ipv6 text = true ↔
      ∃ host port, text = host ++ port ∧ Host ipv4 ipv6 (fun host => ¬DottedNumeric host) host ∧
        PortPart port := by
  have outside : ∀ {address : List Char} {c : Char}, ipv6 address = true →
      c ∉ "0123456789abcdefABCDEF:.".toList → c ∉ address :=
    fun accepted other member => other (form6 _ accepted _ member)
  by_cases start : text.head? = some '['
  · obtain ⟨text, rfl⟩ : ∃ tail, text = '[' :: tail := ⟨text.tail, (List.cons_head?_tail start).symm⟩
    constructor
    · intro accepted
      by_cases closed : ']' ∈ text
      · obtain ⟨address, behind, rfl, first⟩ := List.eq_append_cons_of_mem closed
        obtain ⟨literal, port⟩ := (validHostPort_bracketed first).1 accepted
        rw [Text.cString_eq (whole address behind rfl first)] at literal
        exact ⟨'[' :: (address ++ [']']), behind, by simp, .ipv6 literal, port⟩
      · rw [validHostPort_unclosed closed] at accepted
        cases accepted
    · rintro ⟨host, port, shape, valid, port_ok⟩
      obtain ⟨address, literal, rfl⟩ | ⟨nonempty, plain⟩ := host_cases valid
      · have closed : ']' ∉ address := outside literal (by decide)
        have entire : '\x00' ∉ address := outside literal (by decide)
        rw [shape, List.cons_append, List.append_assoc, List.singleton_append,
          validHostPort_bracketed closed, Text.cString_eq entire]
        exact ⟨literal, port_ok⟩
      · obtain ⟨c, host, rfl⟩ := List.exists_cons_of_ne_nil nonempty
        exact absurd (List.cons.inj shape).1.symm (plain_ne (plain c (by simp)) (by decide))
  · rw [validHostPort_plain form4 start]
    constructor
    · rintro ⟨host, port, shape, -, ⟨dotted, literal⟩ | ⟨name, other⟩, port_ok⟩
      · exact ⟨host, port, shape, .ipv4 dotted literal, port_ok⟩
      · exact ⟨host, port, shape, .name name other, port_ok⟩
    · rintro ⟨host, port, rfl, valid, port_ok⟩
      have no_colon : ':' ∉ host := by
        obtain ⟨address, -, rfl⟩ | ⟨-, plain⟩ := host_cases valid
        · simp at start
        · exact fun member => plain_ne (plain ':' member) (by decide) rfl
      refine ⟨host, port, rfl, no_colon, ?_, port_ok⟩
      cases valid with
      | ipv6 _ => simp at start
      | ipv4 dotted literal => exact .inl ⟨dotted, literal⟩
      | name name other => exact .inr ⟨name, other⟩

/-! ## Authorities and URLs -/

theorem hostPort_append {userinfo rest : List Char} (user : UserInfo userinfo)
    (last : '@' ∉ rest) : hostPort (userinfo ++ rest) = rest := by
  obtain rfl | ⟨info, -, -, rfl⟩ := user
  · have missing : Text.findLastOf rest '@' = none := by simpa [Text.findLastOf] using last
    simp [hostPort, missing]
  · have shape : info ++ ['@'] ++ rest = info ++ '@' :: rest := by simp
    rw [hostPort, shape, Text.findLastOf_append info last]
    simp

/-- The last sign must be the first one too, with a text in front of it. -/
theorem signs_accepted {a b : List Char} (last : '@' ∉ b) :
    ((Text.findLastOf (a ++ '@' :: b) '@').any
      fun sign => sign = 0 || Text.find (a ++ '@' :: b) '@' 0 ≠ some sign) = false ↔
      a ≠ [] ∧ '@' ∉ a := by
  rw [Text.findLastOf_append a last]
  by_cases earlier : '@' ∈ a
  · obtain ⟨a, a', rfl, first⟩ := List.eq_append_cons_of_mem earlier
    have found : Text.find (a ++ '@' :: a' ++ '@' :: b) '@' 0 = some a.length := by
      rw [List.append_assoc, List.cons_append, find_first first]
    simp only [found, Option.any_some]
    simp
  · simp [find_first earlier, earlier]

theorem validRtspAuthority_iff {authority : List Char} :
    validRtspAuthority ipv4 ipv6 authority = true ↔
      ∃ userinfo, authority = userinfo ++ hostPort authority ∧ UserInfo userinfo ∧
        validHostPort ipv4 ipv6 (hostPort authority) = true := by
  unfold validRtspAuthority
  by_cases sign : '@' ∈ authority
  · obtain ⟨a, b, rfl, last⟩ := Text.exists_last sign
    have rest : hostPort (a ++ '@' :: b) = b := by
      rw [hostPort, Text.findLastOf_append a last]
      simp
    have shape : a ++ '@' :: b = (a ++ ['@']) ++ b := by simp
    rw [rest]
    cases signs : (Text.findLastOf (a ++ '@' :: b) '@').any
        fun sign => sign = 0 || Text.find (a ++ '@' :: b) '@' 0 ≠ some sign with
    | false =>
      obtain ⟨nonempty, only⟩ := (signs_accepted last).1 signs
      rw [if_neg (by simp)]
      refine ⟨fun accepted => ⟨a ++ ['@'], shape, .inr ⟨a, nonempty, only, rfl⟩, accepted⟩, ?_⟩
      rintro ⟨_, _, _, accepted⟩
      exact accepted
    | true =>
      rw [if_pos rfl]
      refine iff_of_false (by simp) ?_
      rintro ⟨userinfo, same, user, -⟩
      obtain rfl := List.append_cancel_right (shape.symm.trans same)
      obtain empty | ⟨info, nonempty, only, same⟩ := user
      · simp at empty
      · obtain rfl := List.append_cancel_right same
        rw [(signs_accepted last).2 ⟨nonempty, only⟩] at signs
        cases signs
  · have missing : Text.findLastOf authority '@' = none := by simpa [Text.findLastOf] using sign
    have rest : hostPort authority = authority := by simp [hostPort, missing]
    rw [missing, rest]
    refine ⟨fun accepted => ⟨[], rfl, .inl rfl, accepted⟩, ?_⟩
    rintro ⟨_, _, _, accepted⟩
    exact accepted

theorem rtspAuthority_eq (text : List Char) :
    rtspAuthority ("rtsp://".toList ++ text) =
      text.takeWhile fun c => !"/?#".toList.contains c := by
  have long : ("rtsp://".toList ++ text).length ≥ 7 := by simp
  have rest : ("rtsp://".toList ++ text).drop 7 = text := by simp
  rw [rtspAuthority, if_pos long, rest, Text.upTo_findIdx]

theorem checkRange_ok {valid : Bool} {field requirement : String} :
    checkRange valid field requirement = .ok () ↔ valid = true := by
  cases valid with
  | true => simp [checkRange]
  | false => simp [checkRange]

/-- The check of the URL, test by test. -/
theorem checkRtspUrl_ok {url : List Char} : checkRtspUrl ipv4 ipv6 url = .ok () ↔
    (∀ c ∈ url, c ∉ [' ', '\t', '\r', '\n']) ∧ ∃ text, url = "rtsp://".toList ++ text ∧
      validRtspAuthority ipv4 ipv6 (rtspAuthority url) = true := by
  have white : " \t\r\n".toList = [' ', '\t', '\r', '\n'] := rfl
  rw [checkRtspUrl, checkRange_ok, Bool.and_eq_true, Bool.and_eq_true, Bool.not_eq_true',
    List.any_eq_false, white]
  simp only [List.contains_iff_mem, List.isPrefixOf_iff_prefix]
  constructor
  · rintro ⟨⟨⟨text, rfl⟩, accepted⟩, visible⟩
    exact ⟨visible, text, rfl, accepted⟩
  · rintro ⟨visible, text, rfl, accepted⟩
    exact ⟨⟨⟨text, rfl⟩, accepted⟩, visible⟩

/-- The text behind the scheme, cut at its first delimiter. -/
theorem delimited_iff {authority rest : List Char}
    (follows : rest = [] ∨ ∃ c tail, rest = c :: tail ∧ c ∈ ['/', '?', '#']) :
    (authority ++ rest).takeWhile (fun c => !"/?#".toList.contains c) = authority ↔
      ∀ c ∈ authority, c ∉ ['/', '?', '#'] := by
  have delimiters : "/?#".toList = ['/', '?', '#'] := rfl
  have cut : (authority ++ rest).takeWhile (fun c => !"/?#".toList.contains c) =
      authority.takeWhile fun c => !"/?#".toList.contains c := by
    obtain rfl | ⟨c, tail, rfl, stop⟩ := follows
    · rw [List.append_nil]
    · rw [Text.takeWhile_append_stop]
      rw [delimiters, List.contains_iff_mem.2 stop, Bool.not_true]
  rw [cut, List.takeWhile_eq_self_iff, delimiters]
  simp only [Bool.not_eq_true', List.contains_eq_mem, decide_eq_false_iff_not]

theorem host_port_unsigned {name : List Char → Prop} {host port : List Char}
    (form6 : ∀ text, ipv6 text = true → ∀ c ∈ text, c ∈ "0123456789abcdefABCDEF:.".toList)
    (valid : Host ipv4 ipv6 name host) (port_ok : PortPart port) : '@' ∉ host ++ port := by
  rw [List.mem_append, not_or]
  constructor
  · obtain ⟨address, literal, rfl⟩ | ⟨-, plain⟩ := host_cases valid
    · have outside : '@' ∉ address := fun member => absurd (form6 _ literal _ member) (by decide)
      simpa using outside
    · exact fun member => plain_ne (plain '@' member) (by decide) rfl
  · obtain rfl | ⟨digits, good, rfl⟩ := port_ok
    · simp
    · have outside : '@' ∉ digits := fun member => absurd (good.digits _ member) (by decide)
      simpa using outside

/-- **The check of `video.rtsp_url` accepts exactly its grammar**: the authority ends at the first
`/`, `?` or `#`, and a host of digits and dots is an address, never a name. -/
theorem rtsp_url_grammar (form4 : ∀ text, ipv4 text = true → text.length ≤ 15)
    (form6 : ∀ text, ipv6 text = true → ∀ c ∈ text, c ∈ "0123456789abcdefABCDEF:.".toList)
    (url : List Char) (whole : ∀ address behind, hostPort (rtspAuthority url) =
      '[' :: (address ++ ']' :: behind) → ']' ∉ address → '\x00' ∉ address) :
    checkRtspUrl ipv4 ipv6 url = .ok () ↔
      RtspUrl ipv4 ipv6 (fun host => ¬DottedNumeric host) (fun c => c ∉ ['/', '?', '#']) url := by
  rw [checkRtspUrl_ok]
  constructor
  · rintro ⟨visible, text, rfl, accepted⟩
    obtain ⟨userinfo, shape, user, accepted⟩ := validRtspAuthority_iff.1 accepted
    obtain ⟨host, port, split, valid, port_ok⟩ := (validHostPort_iff form4 form6 whole).1 accepted
    have joined := List.takeWhile_append_dropWhile (p := fun c => !"/?#".toList.contains c)
      (l := text)
    have follows : text.dropWhile (fun c => !"/?#".toList.contains c) = [] ∨
        ∃ c tail, text.dropWhile (fun c => !"/?#".toList.contains c) = c :: tail ∧
          c ∈ ['/', '?', '#'] := by
      cases rest : text.dropWhile (fun c => !"/?#".toList.contains c) with
      | nil => exact .inl rfl
      | cons c tail =>
        have stop := List.head_dropWhile_not (fun c => !"/?#".toList.contains c)
          (by rw [rest]; exact List.cons_ne_nil c tail)
        simp only [rest, List.head_cons, Bool.not_eq_false', List.contains_iff_mem] at stop
        exact .inr ⟨c, tail, rfl, stop⟩
    refine ⟨visible, _, _, by rw [joined], ?_, (delimited_iff follows).1 (by rw [joined]), follows⟩
    rw [← rtspAuthority_eq, shape, split]
    exact .mk user valid port_ok
  · rintro ⟨visible, authority, rest, rfl, ⟨user, valid, port_ok⟩, inside, follows⟩
    have cut := (rtspAuthority_eq _).trans ((delimited_iff follows).2 inside)
    have behind := hostPort_append user (host_port_unsigned form6 valid port_ok)
    refine ⟨visible, _, rfl, validRtspAuthority_iff.2 ?_⟩
    rw [cut, behind] at whole
    rw [cut, behind]
    exact ⟨_, rfl, user, (validHostPort_iff form4 form6 whole).2 ⟨_, _, rfl, valid, port_ok⟩⟩

end

/-- The check with `inet_pton` reduced to one address of each kind. -/
def loopback4 (text : List Char) : Bool := text = "127.0.0.1".toList

def loopback6 (text : List Char) : Bool := text = "::1".toList

theorem rtsp_url_grammar_loopback :
    RtspUrl loopback4 loopback6 (fun host => ¬DottedNumeric host) (fun c => c ∉ ['/', '?', '#'])
      "rtsp://viewer@[::1]:8554/live".toList := by
  refine (rtsp_url_grammar ?_ ?_ _ ?_).1 (by decide)
  · intro text accepted
    simp only [loopback4, decide_eq_true_eq] at accepted
    rw [accepted]
    decide
  · intro text accepted c member
    simp only [loopback6, decide_eq_true_eq] at accepted
    rw [accepted] at member
    have all : ("::1".toList.all fun c => "0123456789abcdefABCDEF:.".toList.contains c) = true := by
      decide
    exact List.contains_iff_mem.1 (List.all_eq_true.1 all c member)
  · intro address behind shape _ member
    have absent : '\x00' ∉ hostPort (rtspAuthority "rtsp://viewer@[::1]:8554/live".toList) := by decide
    rw [shape] at absent
    simp [member] at absent

/-- A name of numeric labels and a userinfo with `/` fit the grammar with no further conditions, yet
the first is sent to `inet_pton` and the second is cut at the `/`. -/
theorem rtsp_url_numeric_rejected :
    (RtspUrl loopback4 loopback6 (fun _ => True) (fun _ => True) "rtsp://1.2.3.4.5".toList ∧
      checkRtspUrl loopback4 loopback6 "rtsp://1.2.3.4.5".toList ≠ .ok ()) ∧
    (RtspUrl loopback4 loopback6 (fun _ => True) (fun _ => True) "rtsp://-/x@camera".toList ∧
      checkRtspUrl loopback4 loopback6 "rtsp://-/x@camera".toList ≠ .ok ()) := by
  have named : ∀ {host : List Char}, host.length ≤ 253 → (host.splitOn '.').all labelOk = true →
      Host loopback4 loopback6 (fun _ => True) host :=
    fun short good => .name ⟨short, fun label part => labelOk_iff.1 (List.all_eq_true.1 good _ part)⟩
      trivial
  have visible : ∀ {url : List Char}, url.any [' ', '\t', '\r', '\n'].contains = false →
      ∀ c ∈ url, c ∉ [' ', '\t', '\r', '\n'] := by
    intro url none c member white
    exact List.any_eq_false.1 none c member (List.contains_iff_mem.2 white)
  refine ⟨⟨⟨visible (by decide), "1.2.3.4.5".toList, [], rfl, ?_, by simp, .inl rfl⟩, by decide⟩,
    ⟨visible (by decide), "-/x@camera".toList, [], rfl, ?_, by simp, .inl rfl⟩, by decide⟩
  · exact @Authority.mk _ _ _ [] "1.2.3.4.5".toList [] (.inl rfl) (named (by decide) (by decide))
      (.inl rfl)
  · exact @Authority.mk _ _ _ "-/x@".toList "camera".toList []
      (.inr ⟨"-/x".toList, by decide, by decide, rfl⟩) (named (by decide) (by decide)) (.inl rfl)

/-- The defaults pass their own checks. -/
example : validateVideo loopback4 loopback6 {} = .ok () := by decide

end SkaiEdge.Config
