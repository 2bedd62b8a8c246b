import CallScript.Proofs.Text.Span
import CallScript.Rpc.Message

/-! # What a line of a server means

The kinds of lines that a server may send, each by itself: a blank line, a message of the server's own, an
answer that carries a result and one that carries an error.  A key of an object may be absent, or stand for
anything, also for `null`.  `Incoming.decode` looks at a line in six steps; what it finds is what the line
means.

* `Fault.Denotes`: a JSON value denotes an error, as an object or as an array.
* `Fault.ofJson_eq_ok_iff`: errors are read from the values that denote them.
* `Json.readAll?_of_isBlank`: a blank line is no JSON document.
* `Means`: a line means a message.
* `lines_are_classified`: a line is read as what it means, and breaks the protocol if it means nothing. -/

namespace CallScript

/-! ### Blank lines -/

theorem Json.readNumber_of_isBlank {s : List Char} (blank : ∀ c ∈ s, Text.isBlank c = true) :
    readNumber s = none := by
  have no_digit : Text.spanOf Text.isDigit s = ([], s) := by
    refine Text.spanOf_eq_iff.mpr ⟨rfl, nofun, fun c head => ?_⟩
    apply Bool.eq_false_iff.mpr
    intro digit
    have not_blank := Text.not_isBlank_of_isDigit digit
    rw [blank c (List.mem_of_mem_head? head)] at not_blank
    cases not_blank
  have no_whole : readWhole s = none := by
    unfold readWhole
    rw [no_digit]
  unfold readNumber
  split
  next negative unsigned signed =>
    split at signed
    · have first := blank '-' List.mem_cons_self
      exact absurd first (by decide)
    · cases signed
      rw [no_whole]
      rfl

theorem Json.readValue_of_isBlank {s : List Char} (blank : ∀ c ∈ s, Text.isBlank c = true) (fuel depth : Nat) :
    readValue fuel depth s = none := by
  cases fuel with
  | zero => rfl
  | succ fuel =>
      have blank_left : ∀ c ∈ Text.skipSpacing s, Text.isBlank c = true := fun c member =>
        blank c ((List.dropWhile_sublist _).mem member)
      have starts : ∀ (c : Char) (rest : List Char), Text.skipSpacing s = c :: rest → Text.isBlank c = true :=
        fun c rest left => blank_left c (left ▸ List.mem_cons_self)
      unfold readValue
      split
      next left => exact absurd (starts _ _ left) (by decide)
      next left => exact absurd (starts _ _ left) (by decide)
      next left => exact absurd (starts _ _ left) (by decide)
      next left => exact absurd (starts _ _ left) (by decide)
      next left => exact absurd (starts _ _ left) (by decide)
      next left => exact absurd (starts _ _ left) (by decide)
      · exact readNumber_of_isBlank blank_left

/-- A blank line is no JSON document. -/
theorem Json.readAll?_of_isBlank {s : List Char} (blank : ∀ c ∈ s, Text.isBlank c = true) :
    readAll? s = none := by
  rw [readAll?, readValue_of_isBlank blank]

namespace Rpc

/-! ### Errors -/

/-- The data that an error carries, by what stands under its key; `null` counts as nothing. -/
inductive Fault.Data : Option Json → Option Json → Prop
  | absent : Data none none
  | null : Data (some .null) none
  | given {j : Json} (some_data : j ≠ .null) : Data (some j) (some j)

/-- A JSON value denotes an error: an object with a code, a message and perhaps data, whatever else it holds,
or an array of these two or three. -/
inductive Fault.Denotes : Json → Fault → Prop
  | object {fields : List (String × Json)} {code : Int64} {message : String} {data : Option Json}
      (coded : Fields.find? "code" fields = some (.int code))
      (worded : Fields.find? "message" fields = some (.str message))
      (carried : Fault.Data (Fields.find? "data" fields) data) :
      Denotes (.obj fields) ⟨code, message, data⟩
  | array {code : Int64} {message : String} {rest : List Json} {data : Option Json}
      (short : rest.length ≤ 1) (carried : Fault.Data rest.head? data) :
      Denotes (.arr (.int code :: .str message :: rest)) ⟨code, message, data⟩

namespace Fault

variable {j : Json} {e : Fault} {field data : Option Json}

theorem bind_readData_iff : field.bind readData = data ↔ Fault.Data field data := by
  constructor
  · rintro rfl
    rcases field with _ | j
    · exact .absent
    · cases j with
      | null => exact .null
      | _ => exact .given (by simp)
  · intro carried
    cases carried with
    | absent | null => rfl
    | @given j some_data => cases j <;> first | rfl | exact absurd rfl some_data

theorem readCode_eq_ok_iff {code : Int64} : readCode j = .ok code ↔ j = .int code := by
  unfold readCode Json.int
  split <;> simp_all

theorem readMessage_eq_ok_iff {message : String} : readMessage j = .ok message ↔ j = .str message := by
  unfold readMessage
  split <;> simp_all

theorem readField_eq_ok_iff {α : Type} {fields : List (String × Json)} {key : String}
    {read : Json → Except Flaw α} {a : α} :
    readField fields key read = .ok (some a) ↔ ∃ j, Fields.find? key fields = some j ∧ read j = .ok a := by
  unfold readField
  cases Fields.find? key fields with
  | none => simp
  | some j =>
      cases result : read j with
      | error flaw => simp [result, Except.map]
      | ok b => simp [result, Except.map]

theorem ofJson_obj_eq_ok_iff {fields : List (String × Json)} : ofJson (.obj fields) = .ok e ↔
    Fields.find? "code" fields = some (.int e.code) ∧ Fields.find? "message" fields = some (.str e.message) ∧
      Fault.Data (Fields.find? "data" fields) e.data := by
  have code_iff {code : Int64} : readField fields "code" readCode = .ok (some code) ↔
      Fields.find? "code" fields = some (.int code) := by
    simp [readField_eq_ok_iff, readCode_eq_ok_iff]
  have message_iff {message : String} : readField fields "message" readMessage = .ok (some message) ↔
      Fields.find? "message" fields = some (.str message) := by
    simp [readField_eq_ok_iff, readMessage_eq_ok_iff]
  simp only [ofJson, bind_eq_ok_iff]
  constructor
  · rintro ⟨code, coded, message, worded, read⟩
    split at read
    · cases read
    · cases read
    · cases read
      exact ⟨code_iff.mp coded, message_iff.mp worded, bind_readData_iff.mp rfl⟩
  · rintro ⟨coded, worded, carried⟩
    refine ⟨_, code_iff.mpr coded, _, message_iff.mpr worded, ?_⟩
    simp only [bind_readData_iff.mpr carried]

theorem ofJson_arr_eq_ok_iff {items : List Json} : ofJson (.arr items) = .ok e ↔
    ∃ rest, items = .int e.code :: .str e.message :: rest ∧ rest.length ≤ 1 ∧
      Fault.Data rest.head? e.data := by
  obtain ⟨code, message, data⟩ := e
  match items with
  | [] => simp [ofJson]
  | [first] => simp [ofJson, bind_eq_ok_iff]
  | first :: second :: rest =>
      simp only [ofJson, bind_eq_ok_iff, readCode_eq_ok_iff, readMessage_eq_ok_iff]
      constructor
      · rintro ⟨code, rfl, message, rfl, read⟩
        split at read
        · cases read
          exact ⟨[], rfl, Nat.zero_le 1, .absent⟩
        next third =>
          cases read
          exact ⟨[third], rfl, Nat.le_refl 1, bind_readData_iff.mp rfl⟩
        · cases read
      · rintro ⟨rest, same, short, carried⟩
        cases same
        refine ⟨_, rfl, _, rfl, ?_⟩
        have data_eq := bind_readData_iff.mpr carried
        match rest with
        | [] =>
            obtain rfl : none = data := data_eq
            rfl
        | [third] =>
            obtain rfl : readData third = data := data_eq
            rfl
        | _ :: _ :: _ => simp at short

/-- Errors are read from the values that denote them, and from no others. -/
theorem ofJson_eq_ok_iff : ofJson j = .ok e ↔ Denotes j e := by
  constructor
  · intro read
    cases j with
    | obj fields =>
        obtain ⟨coded, worded, carried⟩ := ofJson_obj_eq_ok_iff.mp read
        exact .object coded worded carried
    | arr items =>
        obtain ⟨rest, rfl, short, carried⟩ := ofJson_arr_eq_ok_iff.mp read
        exact .array short carried
    | _ => cases read
  · intro denotes
    cases denotes with
    | object coded worded carried => exact ofJson_obj_eq_ok_iff.mpr ⟨coded, worded, carried⟩
    | array short carried => exact ofJson_arr_eq_ok_iff.mpr ⟨_, rfl, short, carried⟩

end Fault

/-! ### Messages -/

/-- A line is a JSON object of the version that every message carries. -/
structure IsMessage (line : String) (fields : List (String × Json)) : Prop where
  is_object : Json.readAll? line.toList = some (.obj fields)
  versioned : Fields.find? "jsonrpc" fields = some (.str "2.0")

/-- A line answers the request of an id: it is a message with that id, and without a text for a method. -/
structure Answers (line : String) (id : Int64) (fields : List (String × Json)) : Prop
    extends IsMessage line fields where
  no_method : ∀ method, Fields.find? "method" fields ≠ some (.str method)
  identified : Fields.find? "id" fields = some (.int id)

/-- What a line of a server means. -/
inductive Means (line : String) : Incoming → Prop
  | blank (blank : ∀ c ∈ line.toList, Text.isBlank c = true) : Means line .blank
  | serverMessage {fields : List (String × Json)} {method : String} (message : IsMessage line fields)
      (named : Fields.find? "method" fields = some (.str method)) : Means line (.serverMessage method)
  | success {fields : List (String × Json)} {id : Int64} {result : Json} (answers : Answers line id fields)
      (has_result : Fields.find? "result" fields = some result)
      (no_error : Fields.find? "error" fields = none) : Means line (.response ⟨id, .success result⟩)
  | failure {fields : List (String × Json)} {id : Int64} {j : Json} {e : Fault}
      (answers : Answers line id fields) (no_result : Fields.find? "result" fields = none)
      (has_error : Fields.find? "error" fields = some j) (denotes : Fault.Denotes j e) :
      Means line (.response ⟨id, .failure e⟩)

namespace Incoming

/-- What a response's object says of its request: a result without an error, or an error without a result. -/
theorem readOutcome_eq_ok_iff {fields : List (String × Json)} {outcome : Outcome} :
    readOutcome fields = .ok outcome ↔
      (∃ result, outcome = .success result ∧ Fields.find? "result" fields = some result ∧
        Fields.find? "error" fields = none) ∨
      ∃ e, outcome = .failure e ∧ Fields.find? "result" fields = none ∧
        ∃ j, Fields.find? "error" fields = some j ∧ Fault.Denotes j e := by
  unfold readOutcome
  rcases Fields.find? "result" fields with _ | result <;> rcases Fields.find? "error" fields with _ | j
  · simp
  · have denotes_iff (e : Fault) : Fault.Denotes j e ↔ Fault.ofJson j = .ok e := Fault.ofJson_eq_ok_iff.symm
    cases read : Fault.ofJson j with
    | error flaw => simp [denotes_iff, read]
    | ok e => simp [denotes_iff, read, eq_comm]
  · simp [eq_comm]
  · simp

theorem str?_bind_eq_some_iff {field : Option Json} {s : String} :
    field.bind Json.str? = some s ↔ field = some (.str s) := by
  rcases field with _ | j
  · simp
  · cases j <;> simp [Json.str?]

theorem int?_eq_some_iff {j : Json} {i : Int64} : j.int? = some i ↔ j = .int i := by
  unfold Json.int? Json.int
  split <;> simp_all

section

variable {line : String} {fields : List (String × Json)}

theorem means_of_ofFields {incoming : Incoming} (is_object : Json.readAll? line.toList = some (.obj fields))
    (read : ofFields fields = .ok incoming) : Means line incoming := by
  unfold ofFields at read
  split at read
  · cases read
  next found has_version =>
    split at read
    · cases read
    next is_version =>
      obtain rfl : found = version := by simpa using is_version
      have message : IsMessage line fields := ⟨is_object, str?_bind_eq_some_iff.mp has_version⟩
      split at read
      next method named =>
        cases read
        exact .serverMessage message (str?_bind_eq_some_iff.mp named)
      next no_method =>
        split at read
        · cases read
        next j has_id =>
          split at read
          · cases read
          next id is_int =>
            obtain rfl := int?_eq_some_iff.mp is_int
            have answers : Answers line id fields :=
              ⟨message, fun method named => by simp [str?_bind_eq_some_iff.mpr named] at no_method, has_id⟩
            cases outcome : readOutcome fields with
            | error flaw => simp [outcome, Except.map] at read
            | ok outcome' =>
                obtain rfl : Incoming.response ⟨id, outcome'⟩ = incoming := by
                  simpa [outcome, Except.map] using read
                rcases readOutcome_eq_ok_iff.mp outcome with
                  ⟨result, rfl, has_result, no_error⟩ | ⟨e, rfl, no_result, j, has_error, denotes⟩
                · exact .success answers has_result no_error
                · exact .failure answers no_result has_error denotes

theorem ofFields_of_answers {id : Int64} (answers : Answers line id fields) :
    ofFields fields = (readOutcome fields).map fun outcome => .response ⟨id, outcome⟩ := by
  have no_method : (Fields.find? "method" fields).bind Json.str? = none := by
    apply Option.eq_none_iff_forall_ne_some.mpr
    intro method named
    exact answers.no_method method (str?_bind_eq_some_iff.mp named)
  have id_eq : (Json.int id).int? = some id := rfl
  simp only [ofFields, str?_bind_eq_some_iff.mpr answers.versioned, no_method, answers.identified, id_eq]
  rfl

theorem ofFields_of_means {incoming : Incoming} (is_object : Json.readAll? line.toList = some (.obj fields))
    (means : Means line incoming) : ofFields fields = .ok incoming := by
  have same {fields' : List (String × Json)} (h : IsMessage line fields') : fields' = fields := by
    have objects_eq := h.is_object.symm.trans is_object
    cases objects_eq
    rfl
  cases means with
  | blank blank =>
      rw [Json.readAll?_of_isBlank blank] at is_object
      cases is_object
  | serverMessage message named =>
      obtain rfl := same message
      simp only [ofFields, str?_bind_eq_some_iff.mpr message.versioned, str?_bind_eq_some_iff.mpr named]
      rfl
  | success answers has_result no_error =>
      obtain rfl := same answers.toIsMessage
      rw [ofFields_of_answers answers, readOutcome_eq_ok_iff.mpr (.inl ⟨_, rfl, has_result, no_error⟩)]
      rfl
  | failure answers no_result has_error denotes =>
      obtain rfl := same answers.toIsMessage
      rw [ofFields_of_answers answers,
        readOutcome_eq_ok_iff.mpr (.inr ⟨_, rfl, no_result, _, has_error, denotes⟩)]
      rfl

theorem blank_or_object {incoming : Incoming} (means : Means line incoming) :
    (incoming = .blank ∧ ∀ c ∈ line.toList, Text.isBlank c = true) ∨
      ∃ fields, Json.readAll? line.toList = some (.obj fields) := by
  cases means with
  | blank blank => exact .inl ⟨rfl, blank⟩
  | serverMessage message => exact .inr ⟨_, message.is_object⟩
  | success answers | failure answers => exact .inr ⟨_, answers.is_object⟩

theorem decode_iff_means {incoming : Incoming} : decode line = .ok incoming ↔ Means line incoming := by
  have read_iff : decode line = .ok incoming ↔ read line.toList = .ok incoming := by
    unfold decode
    cases read line.toList <;> simp
  rw [read_iff, read]
  cases all_blank : line.toList.all Text.isBlank with
  | true =>
      have blank := List.all_eq_true.mp all_blank
      rw [if_pos rfl]
      constructor
      · intro read
        cases read
        exact .blank blank
      · intro means
        rcases blank_or_object means with ⟨rfl, -⟩ | ⟨fields, is_object⟩
        · rfl
        · rw [Json.readAll?_of_isBlank blank] at is_object
          cases is_object
  | false =>
      rw [if_neg Bool.false_ne_true]
      have is_object (means : Means line incoming) : ∃ fields, Json.readAll? line.toList = some (.obj fields) := by
        rcases blank_or_object means with ⟨-, blank⟩ | is_object
        · rw [List.all_eq_true.mpr blank] at all_blank
          cases all_blank
        · exact is_object
      cases document : Json.readAll? line.toList with
      | none => simpa [document] using is_object
      | some j =>
          cases j with
          | obj fields => exact ⟨means_of_ofFields document, ofFields_of_means document⟩
          | _ => simpa [document] using is_object

theorem eq_protocol_of_decode {e : Error} (failed : decode line = .error e) : ∃ reason, e = .protocol reason := by
  unfold decode at failed
  split at failed
  · cases failed
  · cases failed
    exact ⟨_, rfl⟩

end

end Incoming

/-- A line of a server is read as what it means: a blank line as such, a message of the server's own by its
method, an answer by its id and its result or error.  It means one thing at most.  A line that means nothing,
and no other, breaks the protocol, which never makes the session unusable. -/
theorem lines_are_classified (line : String) :
    (∀ incoming, Incoming.decode line = .ok incoming ↔ Means line incoming) ∧
      (∀ incoming incoming', Means line incoming → Means line incoming' → incoming = incoming') ∧
      ((∀ incoming, ¬ Means line incoming) ↔ ∃ e, Incoming.decode line = .error e) ∧
      ∀ e, Incoming.decode line = .error e → (∃ reason, e = .protocol reason) ∧ e.kind = .protocol ∧
        e.isFatal = false := by
  refine ⟨fun _ => Incoming.decode_iff_means, ?_, ?_, ?_⟩
  · intro incoming incoming' means means'
    have read := Incoming.decode_iff_means.mpr means
    rw [Incoming.decode_iff_means.mpr means'] at read
    exact (Except.ok.inj read).symm
  · simp only [← Incoming.decode_iff_means]
    cases Incoming.decode line <;> simp
  · intro e failed
    obtain ⟨reason, rfl⟩ := Incoming.eq_protocol_of_decode failed
    exact ⟨⟨reason, rfl⟩, rfl, rfl⟩

/-- An array denotes an error, and `null` stands for no data. -/
example : Incoming.decode
    "\x7b\"jsonrpc\":\"2.0\",\"id\":7,\"method\":null,\"error\":[-1,\"no\",null]\x7d" =
      .ok (.response ⟨7, .failure ⟨-1, "no", none⟩⟩) := by
  decide +kernel

end Rpc

end CallScript
