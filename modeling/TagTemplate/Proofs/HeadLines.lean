import TagTemplate.Proofs.ResponseProtocol

/-!
The lines of a response. The head ends at the first blank line of its response, and has one line for
each of its parts, exactly if none of the texts that it is made of breaks a line. The label of an
encoding never does, since only the names of the one encoding are accepted. The other texts are
taken as they are.
-/

namespace TagTemplate

namespace Response

def utf8 (text : String) : List UInt8 :=
  text.toUTF8.data.toList

def lineEnd : List UInt8 := [13, 10]

def blankLine : List UInt8 := lineEnd ++ lineEnd

/-- The bytes are a head, which ends with the first blank line among them, and a body. -/
structure Divides (bytes head body : List UInt8) : Prop where
  whole : bytes = head ++ body
  ended : blankLine <:+ head
  first : ∀ front back, bytes = front ++ (blankLine ++ back) →
    head.length ≤ (front ++ blankLine).length

def divide? : List UInt8 → Option (List UInt8 × List UInt8)
  | [] => none
  | byte :: others =>
      if blankLine <+: byte :: others then some (blankLine, others.drop 3)
      else (divide? others).map fun (head, body) => (byte :: head, body)

def IsLine (line : List UInt8) : Prop :=
  ∃ content, line = content ++ lineEnd ∧ content ≠ [] ∧ 13 ∉ content ∧ 10 ∉ content

theorem divide?_cons {byte : UInt8} {others : List UInt8}
    (further : ¬blankLine <+: byte :: others) :
    divide? (byte :: others) = (divide? others).map fun (head, body) => (byte :: head, body) := by
  rw [divide?, if_neg further]

theorem divides_of_divide? {bytes head body : List UInt8}
    (found : divide? bytes = some (head, body)) : Divides bytes head body := by
  induction bytes generalizing head with
  | nil => cases found
  | cons byte others ih =>
      by_cases blank : blankLine <+: byte :: others
      · rw [divide?, if_pos blank] at found
        cases found
        obtain ⟨rest, split⟩ := blank
        cases split
        exact ⟨rfl, List.suffix_refl _, fun front _ _ => by simp⟩
      · rw [divide?_cons blank] at found
        obtain ⟨⟨rest, _⟩, foundRest, same⟩ := Option.map_eq_some_iff.mp found
        cases same
        obtain ⟨rfl, ended, first⟩ := ih foundRest
        refine ⟨rfl, ended.trans (List.suffix_cons byte rest), fun front back split => ?_⟩
        cases front with
        | nil => exact absurd ⟨back, split.symm⟩ blank
        | cons _ front =>
            have later := first front back (List.cons.inj split).2
            simpa using later

theorem divide?_blankLine_append (body : List UInt8) :
    divide? (blankLine ++ body) = some (blankLine, body) := by
  change divide? (13 :: 10 :: 13 :: 10 :: body) = _
  rw [divide?, if_pos ⟨body, rfl⟩]
  rfl

theorem divide?_content_append {content : List UInt8} (inside : 13 ∉ content)
    (others : List UInt8) :
    divide? (content ++ others) =
      (divide? others).map fun (head, body) => (content ++ head, body) := by
  induction content with
  | nil => simp
  | cons byte content ih =>
      have further : ¬blankLine <+: byte :: (content ++ others) := by
        rintro ⟨body, split⟩
        exact inside (by simp [(List.cons.inj split).1])
      have later := ih fun member => inside (List.mem_cons_of_mem byte member)
      rw [List.cons_append, divide?_cons further, later, Option.map_map]
      rfl

theorem IsLine.divide?_append {line others : List UInt8} (single : IsLine line)
    (further : ¬lineEnd <+: others) :
    divide? (line ++ others) = (divide? others).map fun (head, body) => (line ++ head, body) := by
  obtain ⟨content, rfl, -, inside, -⟩ := single
  have atReturn : ¬blankLine <+: 13 :: 10 :: others := by
    rintro ⟨body, split⟩
    exact further ⟨body, by simpa [blankLine, lineEnd] using split⟩
  have atFeed : ¬blankLine <+: 10 :: others := by
    rintro ⟨body, split⟩
    exact absurd (List.cons.inj split).1 (by decide)
  rw [List.append_assoc, divide?_content_append inside]
  change (divide? (13 :: 10 :: others)).map _ = _
  rw [divide?_cons atReturn, divide?_cons atFeed, Option.map_map, Option.map_map]
  simp [Function.comp_def, lineEnd]

theorem divide?_lines_append {lines : List (List UInt8)} (nonempty : lines ≠ [])
    (single : ∀ line ∈ lines, IsLine line) (body : List UInt8) :
    divide? (lines.flatten ++ lineEnd ++ body) = some (lines.flatten ++ lineEnd, body) := by
  induction lines with
  | nil => exact absurd rfl nonempty
  | cons line others ih =>
      obtain ⟨first, later⟩ := List.forall_mem_cons.mp single
      cases others with
      | nil =>
          obtain ⟨content, rfl, -, inside, -⟩ := first
          have split : [content ++ lineEnd].flatten ++ lineEnd ++ body =
              content ++ (blankLine ++ body) := by simp [blankLine]
          rw [split, divide?_content_append inside, divide?_blankLine_append]
          simp [blankLine]
      | cons next rest =>
          -- The next line starts with something, and so the end of this one starts no blank line.
          have further : ¬lineEnd <+: (next :: rest).flatten ++ lineEnd ++ body := by
            obtain ⟨_ | ⟨byte, content⟩, rfl, something, inside, -⟩ :=
              later next List.mem_cons_self
            · exact absurd rfl something
            · rintro ⟨behind, split⟩
              exact inside (by simp [(List.cons.inj split).1])
          rw [List.flatten_cons, List.append_assoc, List.append_assoc, ← List.append_assoc _ lineEnd,
            first.divide?_append further, ih (List.cons_ne_nil _ _) later]
          simp

theorem mem_utf8EncodeChar {byte : UInt8} (ascii : byte.toNat < 128) (character : Char) :
    byte ∈ String.utf8EncodeChar character ↔ character.toNat = byte.toNat := by
  have code : character.toNat = character.val.toNat := rfl
  fun_cases String.utf8EncodeChar character <;>
    simp only [List.mem_cons, List.not_mem_nil, or_false, ← UInt8.toNat_inj, UInt8.toNat_ofNat'] <;>
    omega

theorem mem_utf8 (character : Char) (ascii : character.toNat < 128) (text : String) :
    character.toUInt8 ∈ utf8 text ↔ character ∈ text.toList := by
  have code : character.toUInt8.toNat = character.toNat := by
    rw [Char.toUInt8, UInt32.toNat_toUInt8]
    exact Nat.mod_eq_of_lt (Nat.lt_trans ascii (by decide))
  rw [utf8, String.toUTF8_eq_toByteArray, ← String.utf8Encode_toList, List.utf8Encode,
    List.toList_data_toByteArray, List.mem_flatMap]
  simp only [mem_utf8EncodeChar (code ▸ ascii), code, Char.toNat_inj, exists_eq_right]

theorem utf8_append (front back : String) : utf8 (front ++ back) = utf8 front ++ utf8 back := by
  simp [utf8]

theorem utf8_ne_nil {text : String} (something : text ≠ "") : utf8 text ≠ [] := by
  intro nothing
  have empty : text.toByteArray = ByteArray.empty := ByteArray.ext (Array.toList_inj.mp nothing)
  exact something (String.toByteArray_inj.mp empty)

theorem utf8_join (texts : List String) :
    utf8 (String.join texts) = (texts.map utf8).flatten := by
  induction texts with
  | nil => rfl
  | cons text others ih => rw [String.join_cons, utf8_append, ih, List.map_cons, List.flatten_cons]

end Response

def BreaksNoLine (text : String) : Prop :=
  '\r' ∉ text.toList ∧ '\n' ∉ text.toList

instance (text : String) : Decidable (BreaksNoLine text) :=
  inferInstanceAs (Decidable (_ ∧ _))

theorem breaksNoLine_append {front back : String} :
    BreaksNoLine (front ++ back) ↔ BreaksNoLine front ∧ BreaksNoLine back := by
  simp only [BreaksNoLine, String.toList_append, List.mem_append, not_or]
  tauto

theorem breaksNoLine_toString (number : Nat) : BreaksNoLine (toString number) := by
  have digits {character : Char} (member : character ∈ (toString number).toList) :
      character.isDigit = true :=
    Digits.isDigit_of_mem_text (Nat.toList_repr ▸ member)
  exact ⟨fun member => absurd (digits member) (by decide),
    fun member => absurd (digits member) (by decide)⟩

open Response in
theorem isLine_utf8 {content : String} (something : content ≠ "") :
    IsLine (utf8 (content ++ "\r\n")) ↔ BreaksNoLine content := by
  have returns : 13 ∈ utf8 content ↔ '\r' ∈ content.toList := mem_utf8 '\r' (by decide) content
  have feeds : 10 ∈ utf8 content ↔ '\n' ∈ content.toList := mem_utf8 '\n' (by decide) content
  have ended : utf8 (content ++ "\r\n") = utf8 content ++ lineEnd := utf8_append _ _
  rw [BreaksNoLine, ← returns, ← feeds, ended]
  constructor
  · rintro ⟨front, split, -, inside⟩
    rwa [List.append_cancel_right split]
  · exact fun inside => ⟨_, rfl, utf8_ne_nil something, inside⟩

structure Cookie.Unbroken (cookie : Cookie) : Prop where
  name : BreaksNoLine cookie.name
  value : BreaksNoLine cookie.value
  domain : ∀ domain ∈ cookie.domain, BreaksNoLine domain
  path : ∀ path ∈ cookie.path, BreaksNoLine path

theorem Cookie.breaksNoLine_attribute {label : String} (plain : BreaksNoLine label)
    (value : Option String) :
    BreaksNoLine (Cookie.attribute label value) ↔ ∀ text ∈ value, BreaksNoLine text := by
  have separator : BreaksNoLine "; " := by decide
  have sign : BreaksNoLine "=" := by decide
  cases value with
  | none => simpa [Cookie.attribute] using (by decide : BreaksNoLine "")
  | some text => simp [Cookie.attribute, breaksNoLine_append, plain, separator, sign]

theorem Cookie.isLine_line (cookie : Cookie) :
    Response.IsLine (Response.utf8 cookie.line) ↔ cookie.Unbroken := by
  have label : BreaksNoLine "Set-Cookie: " := by decide
  have opening : BreaksNoLine "=\"" := by decide
  have closing : BreaksNoLine "\"" := by decide
  have seconds : ∀ text ∈ cookie.maxAge.map fun seconds => toString seconds.toNat,
      BreaksNoLine text := by
    intro text found
    obtain ⟨age, -, rfl⟩ := Option.map_eq_some_iff.mp found
    exact breaksNoLine_toString age.toNat
  refine (isLine_utf8 (by simp)).trans ?_
  simp only [breaksNoLine_append, label, opening, closing,
    breaksNoLine_attribute (by decide : BreaksNoLine "Domain"),
    breaksNoLine_attribute (by decide : BreaksNoLine "Path"),
    breaksNoLine_attribute (by decide : BreaksNoLine "Max-Age"), true_and, and_true]
  constructor
  · rintro ⟨⟨⟨⟨name, value⟩, domain⟩, path⟩, -⟩
    exact ⟨name, value, domain, path⟩
  · rintro ⟨name, value, domain, path⟩
    exact ⟨⟨⟨⟨name, value⟩, domain⟩, path⟩, seconds⟩

namespace ResponseHead

open Response

def lines (head : ResponseHead) : List String :=
  head.statusLine :: head.contentTypeLine :: head.cookies.map Cookie.line

def labels (head : ResponseHead) : List String :=
  "HTTP/1.1 " :: "Content-Type: " :: head.cookies.map fun _ => "Set-Cookie: "

/-- The response holds the lines of the head up to its first blank line, each of them a single one
that goes by its label, and the data behind it. -/
structure Intact (head : ResponseHead) (response data : ByteArray) : Prop where
  labelled : List.Forall₂ (fun label line => utf8 label <+: utf8 line) head.labels head.lines
  single : ∀ line ∈ head.lines, IsLine (utf8 line)
  divided : Divides response.data.toList ((head.lines.map utf8).flatten ++ lineEnd)
    data.data.toList

/-- No text in the head breaks a line. The label of the encoding is none of those it takes as they
are. -/
structure Unbroken (head : ResponseHead) : Prop where
  statusText : BreaksNoLine head.statusText
  mimeType : BreaksNoLine head.mimeType
  cookies : ∀ cookie ∈ head.cookies, cookie.Unbroken

theorem isLine_statusLine (head : ResponseHead) :
    IsLine (utf8 head.statusLine) ↔ BreaksNoLine head.statusText := by
  have version : BreaksNoLine "HTTP/1.1 " := by decide
  have separator : BreaksNoLine " " := by decide
  refine (isLine_utf8 (by simp)).trans ?_
  simp only [breaksNoLine_append, version, separator, breaksNoLine_toString, true_and]

theorem isLine_contentTypeLine {head : ResponseHead} (encoding : BreaksNoLine head.encoding) :
    IsLine (utf8 head.contentTypeLine) ↔ BreaksNoLine head.mimeType := by
  have label : BreaksNoLine "Content-Type: " := by decide
  have charset : BreaksNoLine
      (if head.mimeType.startsWith "text/" then "; charset=" ++ head.encoding else "") := by
    split
    · exact breaksNoLine_append.mpr ⟨by decide, encoding⟩
    · decide
  refine (isLine_utf8 (by simp)).trans ?_
  simp only [breaksNoLine_append, label, charset, true_and, and_true]

theorem single_lines_iff {head : ResponseHead} (encoding : BreaksNoLine head.encoding) :
    (∀ line ∈ head.lines, IsLine (utf8 line)) ↔ head.Unbroken := by
  rw [lines, List.forall_mem_cons, List.forall_mem_cons, isLine_statusLine,
    isLine_contentTypeLine encoding, List.forall_mem_map]
  simp only [Cookie.isLine_line]
  exact ⟨fun ⟨statusText, mimeType, cookies⟩ => ⟨statusText, mimeType, cookies⟩,
    fun ⟨statusText, mimeType, cookies⟩ => ⟨statusText, mimeType, cookies⟩⟩

theorem forall₂_labels_lines (head : ResponseHead) :
    List.Forall₂ (fun label line => utf8 label <+: utf8 line) head.labels head.lines := by
  have status : utf8 "HTTP/1.1 " <+: utf8 head.statusLine := by
    unfold statusLine
    rw [String.append_assoc, String.append_assoc, utf8_append]
    exact List.prefix_append _ _
  have contentType : utf8 "Content-Type: " <+: utf8 head.contentTypeLine := by
    unfold contentTypeLine
    rw [String.append_assoc, String.append_assoc, utf8_append]
    exact List.prefix_append _ _
  have cookie (cookie : Cookie) : utf8 "Set-Cookie: " <+: utf8 cookie.line := by
    unfold Cookie.line
    simp only [String.append_assoc]
    rw [utf8_append]
    exact List.prefix_append _ _
  refine .cons status (.cons contentType ?_)
  rw [List.forall₂_map_left_iff, List.forall₂_map_right_iff, List.forall₂_same]
  exact fun each _ => cookie each

theorem utf8_text (head : ResponseHead) :
    utf8 head.text = (head.lines.map utf8).flatten ++ lineEnd := by
  rw [text, utf8_append, utf8_append, utf8_append, utf8_join]
  simp only [lines, List.map_cons, List.flatten_cons, List.append_assoc]
  rfl

theorem intact_iff {head : ResponseHead} (encoding : BreaksNoLine head.encoding)
    (data : ByteArray) :
    head.Intact (head.text.toUTF8 ++ data) data ↔ head.Unbroken := by
  rw [← single_lines_iff encoding]
  constructor
  · exact Intact.single
  · intro single
    refine ⟨forall₂_labels_lines head, single, ?_⟩
    have bytes : (head.text.toUTF8 ++ data).data.toList =
        (head.lines.map utf8).flatten ++ lineEnd ++ data.data.toList := by
      rw [← utf8_text]
      simp [utf8]
    rw [bytes]
    exact divides_of_divide?
      (divide?_lines_append (by simp [lines]) (List.forall_mem_map.mpr single) _)

end ResponseHead

namespace Context

theorem breaksNoLine_of_isSupportedEncoding {label : String}
    (supported : isSupportedEncoding label) : BreaksNoLine label := by
  have lowered {character : Char} (member : character ∈ label.toList) :
      character.toLower ∈ "utf-8".toList ∨ character.toLower ∈ "utf8".toList := by
    have image := List.mem_map_of_mem (f := Char.toLower) member
    simp only [isSupportedEncoding, Bool.or_eq_true, beq_iff_eq] at supported
    rcases supported with same | same <;> rw [same] at image
    · exact .inl image
    · exact .inr image
  exact ⟨fun member => absurd (lowered member) (by decide),
    fun member => absurd (lowered member) (by decide)⟩

theorem isSupportedEncoding_perform (context : Context) (call : Call)
    (supported : isSupportedEncoding context.head.encoding) :
    isSupportedEncoding (context.perform call).2.head.encoding := by
  have kept (property : ResponseProperty) (change : ResponseHead → ResponseHead)
      (still : isSupportedEncoding (change context.head).encoding) :
      isSupportedEncoding (context.settle (context.changeHead property change)).2.head.encoding := by
    rw [settle_changeHead]
    by_cases sent : context.headSent
    · rwa [if_pos sent]
    · rwa [if_neg sent]
  have written (data : ByteArray) : (context.writeBytes data).2.head = context.head := by
    fun_cases writeBytes context data <;> rfl
  cases call with
  | write text => exact (written _).symm ▸ supported
  | writeBytes data => exact (written _).symm ▸ supported
  | setMimeType mimeType => exact kept _ _ supported
  | setEncoding label =>
      rw [perform, setEncoding]
      split
      case isTrue accepted =>
        by_cases sent : context.headSent
        · rw [settle_changeHead, if_pos sent]
          exact supported
        · rw [settle_changeHead, if_neg sent]
          simpa [sent] using accepted
      case isFalse => exact supported
  | setStatusCode code => exact kept _ _ supported
  | setStatusText text => exact kept _ _ supported
  | addCookie cookie => exact kept _ _ supported
  | lookUp scope name => exact supported
  | setParameter scope name value => cases scope <;> exact supported
  | deleteParameter scope name => cases scope <;> exact supported

theorem breaksNoLine_encoding {context : Context}
    (supported : isSupportedEncoding context.head.encoding) (calls : List Call) :
    BreaksNoLine (context.performAll calls).head.encoding := by
  induction calls generalizing context with
  | nil => exact breaksNoLine_of_isSupportedEncoding supported
  | cons call others ih => exact ih (isSupportedEncoding_perform context call supported)

/-- What holds, after some calls, of a context that is to send a head. Whatever was written first
and behind that, the head in front of it keeps its lines exactly if it breaks none. -/
structure KeepsLines (initial : Context) (calls : List Call) : Prop where
  encoding : BreaksNoLine (initial.performAll calls).head.encoding
  output : ∀ before first after, calls = before ++ first :: after →
    (∀ call ∈ before, ¬call.isWrite) → first.isWrite →
    ((initial.performAll before).head.Intact (initial.performAll calls).sink.bytes
        (Call.written (first :: after)) ↔
      (initial.performAll before).head.Unbroken)

theorem keepsLines (initial : Context) (unlimited : initial.sink.room = none)
    (nothing : initial.sink.bytes = .empty) (due : initial.emitsHead && !initial.headSent)
    (supported : isSupportedEncoding initial.head.encoding) (calls : List Call) :
    initial.KeepsLines calls where
  encoding := breaksNoLine_encoding supported calls
  output := by
    rintro before first after rfl silent writes
    have sent := initial.output_of_first_write after unlimited nothing due silent writes
    rw [sent.1]
    exact ResponseHead.intact_iff (breaksNoLine_encoding supported before) _

/-- The head of every response on a new context without a limit keeps its lines, if none of its
texts breaks one. -/
theorem new_keeps_lines (flushFailure : Option String)
    (request persistent temporary : Parameters) (operations : List Operation) :
    (new ⟨.empty, none, flushFailure⟩ request persistent temporary true).Follows KeepsLines
      operations := by
  have supported : isSupportedEncoding ResponseHead.standard.encoding := by decide
  exact ⟨runAll_replays _ operations, fun calls _ => keepsLines _ rfl rfl rfl supported calls⟩

open Response in
theorem statusText_ends_head :
    let initial := new (.empty none) ∅ ∅ ∅ true
    let changed := initial.performAll [.setStatusText "OK\r\n"]
    let response := (changed.performAll [.write "body"]).sink.bytes
    (initial.perform (.setStatusText "OK\r\n")).1 = .ok () ∧
      response.data.toList = utf8 ("HTTP/1.1 200 OK\r\n\r\n" ++
        "Content-Type: text/html; charset=UTF-8\r\n\r\nbody") ∧
      ¬changed.head.Intact response "body".toUTF8 := by
  intro initial changed response
  have sent : response.data.toList = utf8 ("HTTP/1.1 200 OK\r\n\r\n" ++
      "Content-Type: text/html; charset=UTF-8\r\n\r\nbody") := by decide +kernel
  refine ⟨rfl, sent, fun intact => ?_⟩
  have early := intact.divided.first (utf8 "HTTP/1.1 200 OK")
    (utf8 "Content-Type: text/html; charset=UTF-8\r\n\r\nbody") (by rw [sent]; decide)
  exact absurd early (by decide +kernel)

end Context

end TagTemplate
