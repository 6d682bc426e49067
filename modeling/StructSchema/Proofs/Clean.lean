import Mathlib.Data.List.Basic
import StructSchema.Assembly
import StructSchema.Proofs.Name

/-!
# Clean text

A text is clean if no surrogate stands in it. The value of a tag need not be clean, since its
escapes may give bytes outside UTF-8. But nothing of it is passed on as it is: names are ASCII, and
messages show a text between quotes, where a surrogate is written as an escape.
-/

namespace StructSchema

namespace Text

variable {s t : Text}

/-! ### Parts -/

@[simp] theorem isClean_nil : IsClean [] := List.forall_mem_nil _

@[simp] theorem isClean_cons {c : CodePoint} :
    IsClean (c :: t) ↔ c.isSurrogate = false ∧ IsClean t := List.forall_mem_cons

@[simp] theorem isClean_append : IsClean (s ++ t) ↔ IsClean s ∧ IsClean t :=
  List.forall_mem_append

@[simp] theorem isClean_map_char (cs : List Char) : IsClean (cs.map .char) := by
  intro c hc
  obtain ⟨d, -, rfl⟩ := List.mem_map.1 hc
  rfl

attribute [simp] isClean_ofString

theorem isClean_flatMap {α : Type} {parts : List α} {f : α → Text}
    (h : ∀ part ∈ parts, IsClean (f part)) : IsClean (parts.flatMap f) := by
  intro c hc
  obtain ⟨part, hpart, hc⟩ := List.mem_flatMap.1 hc
  exact h part hpart c hc

@[simp] theorem isClean_ofNat (n : Nat) : IsClean (ofNat n) := isClean_map_char _

@[simp] theorem isClean_ofInt (n : Int) : IsClean (ofInt n) := by
  cases n with
  | ofNat n => exact isClean_ofNat n
  | negSucc n => exact isClean_cons.2 ⟨rfl, isClean_ofNat (n + 1)⟩

theorem exists_chars (h : IsClean t) : ∃ cs : List Char, t = cs.map .char := by
  induction t with
  | nil => exact ⟨[], rfl⟩
  | cons c t ih =>
    obtain ⟨hc, ht⟩ := isClean_cons.1 h
    obtain ⟨cs, rfl⟩ := ih ht
    cases c with
    | char c => exact ⟨c :: cs, rfl⟩
    | lone half => cases hc

/-! ### Quoted text -/

@[simp] theorem isClean_hexDigits (width n : Nat) : IsClean (hexDigits width n) := by
  induction width generalizing n with
  | zero => exact isClean_nil
  | succ width ih => exact isClean_append.2 ⟨ih (n / 16), isClean_map_char [_]⟩

theorem isClean_numericEscape (n : Nat) : IsClean (numericEscape n) := by
  unfold numericEscape
  split
  · simp
  split
  · simp
  · simp

theorem isSurrogate_of_isPrintable {c : CodePoint} (h : c.isPrintable = true) :
    c.isSurrogate = false := by
  cases c with
  | char c => rfl
  | lone half =>
    -- all surrogates stand in one range
    have hhalf : half.val < 2048 := half.isLt
    have hval : (CodePoint.lone half).val = 0xD800 + half.val := rfl
    have hmem : CodeRange.mem unprintableRanges (CodePoint.lone half).val = true := by
      rw [CodeRange.mem, List.any_eq_true, hval]
      refine ⟨(0xD7FC, 0xF8FF), by decide, ?_⟩
      rw [Bool.and_eq_true, decide_eq_true_eq, decide_eq_true_eq]
      omega
    have hhigh : ¬(CodePoint.lone half).val < 0x80 := by omega
    rw [CodePoint.isPrintable, hmem] at h
    simp only [hhigh, if_false, Bool.not_true] at h
    cases h

theorem isClean_quotePoint (quote : Char) (c : CodePoint) : IsClean (quotePoint quote c) := by
  unfold quotePoint
  split
  · rename_i hquote
    rcases hquote with rfl | rfl
    · exact isClean_map_char ['\\', quote]
    · exact isClean_map_char ['\\', '\\']
  split
  · exact isClean_ofString _
  split
  · exact isClean_ofString _
  split
  · exact isClean_ofString _
  split
  · rename_i hprintable
    exact isClean_cons.2 ⟨isSurrogate_of_isPrintable hprintable, isClean_nil⟩
  · exact isClean_numericEscape c.val

/-- Whatever a text holds, it is clean between quotes. -/
@[simp] theorem isClean_quoted (t : Text) : IsClean (quoted t) := by
  have hbody : IsClean (t.flatMap (quotePoint (quoteFor t))) :=
    isClean_flatMap fun c _ => isClean_quotePoint _ c
  have hend : IsClean [CodePoint.char (quoteFor t)] := isClean_map_char [quoteFor t]
  rw [quoted, isClean_append, isClean_cons]
  exact ⟨⟨rfl, hbody⟩, hend⟩

/-! ### Names -/

theorem isClean_of_isPlainWord (h : isPlainWord t = true) : IsClean t := by
  have hascii : ∀ {p : Char → Bool} {c : CodePoint}, CodePoint.isAscii p c = true →
      c.isSurrogate = false := by
    intro p c hc
    cases c with
    | char c => rfl
    | lone half => cases hc
  cases t with
  | nil => cases h
  | cons c rest =>
    rw [isPlainWord, Bool.and_eq_true, List.all_eq_true] at h
    exact isClean_cons.2 ⟨hascii h.1, fun d hd => hascii (h.2 d hd)⟩

theorem isClean_of_isWord (h : isWord t = true) : IsClean t := by
  rcases isWord_iff.1 h with hplain | ⟨word, hplain, rfl⟩
  · exact isClean_of_isPlainWord hplain
  · rw [isClean_append]
    exact ⟨isClean_of_isPlainWord hplain, isClean_map_char ['\n']⟩

end Text

theorem Name.isClean_of_isValid {name : Text} (h : Name.isValid name = true) : name.IsClean := by
  rw [Name.isValid, Bool.and_eq_true] at h
  exact Text.isClean_of_isWord h.1

/-! ### Messages -/

@[simp] theorem NameError.isClean_message (e : NameError) : e.message.IsClean := by
  cases e with
  | empty => exact Text.isClean_ofString _
  | tooLong name => simp [message]
  | malformed name => simp [message]

@[simp] theorem TagError.isClean_message (e : TagError) : e.message.IsClean := by
  cases e with
  | emptyKey => exact Text.isClean_ofString _
  | _ => simp [message]

@[simp] theorem TagFault.isClean_message (fault : TagFault) : fault.message.IsClean := by
  cases fault with
  | name error => exact error.isClean_message
  | fieldName field error => simp [message]
  | tag error => exact error.isClean_message

@[simp] theorem ValidityError.isClean_message (e : ValidityError) : e.message.IsClean := by
  cases e with
  | _ => simp [message]

theorem RejectionReason.isClean_summary (reason : RejectionReason) : reason.summary.IsClean := by
  cases reason with
  | _ => simp [summary]

theorem RejectionReason.isClean_cause {reason : RejectionReason} {text : Text}
    (h : reason.cause? = some text) : text.IsClean := by
  cases reason with
  | badStructName error =>
    cases h
    exact error.isClean_message
  | badEntityTag fault =>
    cases h
    exact fault.isClean_message
  | unmappedType field label => cases h
  | badColumn field fault =>
    cases h
    exact fault.isClean_message
  | invalid error =>
    cases h
    exact error.isClean_message

theorem isClean_structMessage {file cause : Option Text} {message : Text} (line : Option Int)
    (struct : Text) (hfile : ∀ path, file = some path → path.IsClean) (hmessage : message.IsClean)
    (hcause : ∀ text, cause = some text → text.IsClean) :
    (structMessage file line struct message cause).IsClean := by
  unfold structMessage
  simp only [Text.isClean_append, Text.isClean_ofString, Text.isClean_quoted, and_true]
  refine ⟨⟨?_, hmessage⟩, ?_⟩
  · split
    · have hpath := hfile _ rfl
      simp only [Text.isClean_append, Text.isClean_ofString, Text.isClean_ofInt, and_true]
      exact hpath
    · have hpath := hfile _ rfl
      simp only [Text.isClean_append, Text.isClean_ofString, and_true]
      exact hpath
    · exact Text.isClean_nil
  · split
    · have htext := hcause _ rfl
      simp only [Text.isClean_append, Text.isClean_ofString, true_and]
      exact htext
    · exact Text.isClean_nil

/-- The message of a rejection is clean if the path of its file is. -/
theorem Rejection.isClean_message {r : Rejection}
    (hfile : ∀ path, r.file = some path → path.IsClean) : r.message.IsClean := by
  apply isClean_structMessage r.line r.struct hfile r.reason.isClean_summary
  intro text htext
  exact RejectionReason.isClean_cause htext

end StructSchema
