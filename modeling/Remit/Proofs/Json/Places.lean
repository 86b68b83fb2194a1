import Remit.Bytes
import Remit.Proofs.Json.Alike
import Remit.Proofs.Json.Fronts

/-!
# Two texts refused at the same place

Two texts that differ in one value are refused at the same place if the reader does not come to the
end of the value, or does not notice the difference: then equally much of both is read when it
stops. A value on one line moves what is behind it by its bytes, so that the place behind it is the
same for values of equal length.

* `Decoder.places_eq_of_strings`: two strings in the place of a value do not move a token;
* `Decoder.placeOf_eq_of_strings`: nor do they move the place of an error;
* `Decoder.placeOf_eq_of_opening`: two arrays, or two objects, of which no more than the bracket is
  read.
-/

namespace Remit.Json

/-! ### Places -/

namespace Place

theorem behind_append (text more : List Char) :
    behind (text ++ more) = more.foldl next (behind text) := List.foldl_append

/-- Along a line only the bytes are counted. -/
theorem foldl_next_of_line {content : List Char} (h : '\n' ∉ content) (place : Place) :
    content.foldl next place = ⟨place.line, place.column + Bytes.utf8Length content⟩ := by
  induction content generalizing place with
  | nil => rfl
  | cons c rest ih =>
    rw [List.mem_cons, not_or] at h
    have hnext : place.next c = ⟨place.line, place.column + c.utf8Size⟩ := by
      rw [next, if_neg (Ne.symm h.1)]
    rw [List.foldl_cons, hnext, ih h.2, Bytes.utf8Length, Nat.add_assoc]

/-- What is behind two texts of one line and one length is at the same place. -/
theorem behind_congr {content content' : List Char} (h : '\n' ∉ content) (h' : '\n' ∉ content')
    (hlength : Bytes.utf8Length content = Bytes.utf8Length content') (front more : List Char) :
    behind (front ++ content ++ more) = behind (front ++ content' ++ more) := by
  rw [behind_append, behind_append, behind_append, behind_append, foldl_next_of_line h,
    foldl_next_of_line h', hlength]

end Place

theorem take_length_sub (read left : List Char) :
    (read ++ left).take ((read ++ left).length - left.length) = read := by
  rw [List.length_append, Nat.add_sub_cancel, List.take_left]

/-! ### What is left of two texts -/

/-- What is left of two texts, one that ends in `s` and one that ends in `s'`, when as much of both
is read and that is not all of the front. -/
def InFront (front s s' u u' : List Char) : Prop :=
  ∃ read left, front = read ++ left ∧ u = left ++ s ∧ u' = left ++ s'

/-- The same, or both are in a back that the texts have in common. -/
def SameLeft (front s s' back u u' : List Char) : Prop :=
  InFront front s s' u u' ∨ (u = u' ∧ u <:+ back)

theorem dropWhile_isBlank_append {c : Char} (hc : Token.isBlank c = false) (left rest : List Char) :
    (left ++ c :: rest).dropWhile Token.isBlank =
      left.dropWhile Token.isBlank ++ c :: rest := by
  induction left with
  | nil => simp [hc]
  | cons d left ih =>
    by_cases hd : Token.isBlank d = true
    · rw [List.cons_append, List.dropWhile_cons_of_pos hd, List.dropWhile_cons_of_pos hd, ih]
    · rw [List.cons_append, List.dropWhile_cons_of_neg hd, List.dropWhile_cons_of_neg hd]
      rfl

theorem behindEnd_suffix (text : List Char) : behindEnd text <:+ text := by
  have hblanks : text.dropWhile Token.isBlank <:+ text := List.dropWhile_suffix _
  unfold behindEnd
  split
  · rename_i heq
    exact (List.suffix_cons _ _).trans (heq ▸ hblanks)
  · exact hblanks

/-- Where the object does not end, nothing of a value is taken for its end. -/
theorem exists_behindEnd_append {c : Char} (hblank : Token.isBlank c = false) (hend : c ≠ '}')
    (left : List Char) :
    ∃ read left', left = read ++ left' ∧
      ∀ rest, behindEnd (left ++ c :: rest) = left' ++ c :: rest := by
  have hblanks := List.takeWhile_append_dropWhile (p := Token.isBlank) (l := left)
  unfold behindEnd
  simp only [dropWhile_isBlank_append hblank]
  generalize left.dropWhile Token.isBlank = behind at hblanks
  cases behind with
  | nil =>
    -- Behind the blanks comes the value.
    refine ⟨left, [], (List.append_nil _).symm, fun rest => ?_⟩
    split
    · rename_i heq
      exact absurd (List.cons.inj heq).1 hend
    · rfl
  | cons d behind =>
    by_cases hd : d = '}'
    · -- The object ends before the value.
      subst hd
      exact ⟨left.takeWhile Token.isBlank ++ ['}'], behind, by simp [hblanks], fun rest => rfl⟩
    · refine ⟨_, d :: behind, hblanks.symm, fun rest => ?_⟩
      split
      · rename_i heq
        exact absurd (List.cons.inj heq).1 hd
      · rfl

section Left

variable {front s s' rest rest' back u u' : List Char} {c : Char}

/-- What is read of both texts is the same. -/
theorem InFront.behind_eq (h : InFront front s s' u u') :
    Place.behind ((front ++ s).take ((front ++ s).length - u.length)) =
      Place.behind ((front ++ s').take ((front ++ s').length - u'.length)) := by
  obtain ⟨read, left, rfl, rfl, rfl⟩ := h
  rw [List.append_assoc, List.append_assoc, take_length_sub, take_length_sub]

/-- What is read of both texts has the same length, if the values have. -/
theorem SameLeft.behind_eq {content content' : List Char} (hline : '\n' ∉ content)
    (hline' : '\n' ∉ content') (hlength : Bytes.utf8Length content = Bytes.utf8Length content')
    (h : SameLeft front (content ++ back) (content' ++ back) back u u') :
    Place.behind ((front ++ (content ++ back)).take
        ((front ++ (content ++ back)).length - u.length)) =
      Place.behind ((front ++ (content' ++ back)).take
        ((front ++ (content' ++ back)).length - u'.length)) := by
  rcases h with h | ⟨rfl, read, rfl⟩
  · exact h.behind_eq
  · simp only [← List.append_assoc, take_length_sub]
    exact Place.behind_congr hline hline' hlength front read

theorem InFront.behindEnd (h : InFront front (c :: rest) (c :: rest') u u')
    (hblank : Token.isBlank c = false) (hend : c ≠ '}') :
    InFront front (c :: rest) (c :: rest') (behindEnd u) (behindEnd u') := by
  obtain ⟨read, left, rfl, rfl, rfl⟩ := h
  obtain ⟨read', left', rfl, hbehind⟩ := exists_behindEnd_append hblank hend left
  exact ⟨read ++ read', left', (List.append_assoc _ _ _).symm, hbehind rest, hbehind rest'⟩

theorem SameLeft.behindEnd (h : SameLeft front (c :: rest) (c :: rest') back u u')
    (hblank : Token.isBlank c = false) (hend : c ≠ '}') :
    SameLeft front (c :: rest) (c :: rest') back (behindEnd u) (behindEnd u') := by
  rcases h with h | ⟨rfl, h⟩
  · exact .inl (h.behindEnd hblank hend)
  · exact .inr ⟨rfl, (behindEnd_suffix u).trans h⟩

/-- Of two tokens that the reader stops at, it leaves what is related if it does not tell the texts
around them apart. -/
theorem unread_related {related : List Char → List Char → Prop}
    (hend : ∀ u u', related u u' → related (behindEnd u) (behindEnd u')) {lexeme lexeme' : Lexeme}
    (hstart : related lexeme.start lexeme'.start) (hrest : related lexeme.rest lexeme'.rest)
    (cause : DecodeError) : related (lexeme.unread cause) (lexeme'.unread cause) := by
  unfold Lexeme.unread
  split
  · exact hstart
  · exact hstart
  · exact hend _ _ hrest
  · exact hrest

end Left

/-! ### The value of a member -/

namespace Decoder

section Members

variable {α σ : Type} {name : String} {field : Field} {fields : List Field}

/-- **A reader comes to the member of a field or has stopped before**, whatever its value is and
whatever follows. The induction is over the members before it. -/
theorem readMembers_append_cons (hfind : fields.find? (·.name == name) = some field)
    (skip : σ → String → Document → Except DecodeError σ) (origin : Origin)
    (before : List (Document × Document)) (known : List (String × Document)) (state : σ) :
    (∃ e, ∀ value after, readMembers fields skip origin
      (before ++ (.scalar (.string (some name)), value) :: after) known state = .error e) ∨
    ∃ known' state', ∀ value after, readMembers fields skip origin
      (before ++ (.scalar (.string (some name)), value) :: after) known state =
        field.check origin value >>= fun _ =>
          readMembers fields skip origin after ((name, value) :: known') state' := by
  induction before generalizing known state with
  | nil =>
    simp only [List.nil_append, readMembers, hfind]
    by_cases hknown : (known.lookup name).isSome = true
    · exact .inl ⟨_, fun _ _ => if_pos hknown⟩
    · exact .inr ⟨known, state, fun _ _ => if_neg hknown⟩
  | cons m rest ih =>
    by_cases hname : ∃ text, m.1 = .scalar (.string (some text))
    · obtain ⟨_, value⟩ := m
      obtain ⟨text, rfl⟩ := hname
      simp only [List.cons_append, readMembers]
      cases fields.find? (·.name == text) with
      | some other =>
        dsimp only
        by_cases hknown : (known.lookup text).isSome = true
        · exact .inl ⟨_, fun _ _ => if_pos hknown⟩
        simp only [if_neg hknown]
        -- An earlier member is refused, or it is known when the next ones are read.
        cases other.check origin value with
        | error e => exact .inl ⟨e, fun _ _ => rfl⟩
        | ok _ => exact ih _ _
      | none =>
        dsimp only
        cases skip state text value with
        | error e => exact .inl ⟨e, fun _ _ => rfl⟩
        | ok state' => exact ih _ _
    · exact .inl ⟨_, fun _ _ => readMembers_of_not_string (not_exists.1 hname) _ _ _⟩

/-- **A record is refused for a value** that its field does not take, or for something before it. -/
theorem exists_record_eq_error {fields : Fields α}
    (hfind : fields.list.find? (·.name == name) = some field) {origin level : Origin}
    (hlevel : origin.enter = .ok level) {kind : Document → Prop} {cause : DecodeError}
    (hcheck : ∀ value, kind value → field.check level value = .error cause) (title : String)
    (before : List (Document × Document)) :
    ∃ e, (∀ value after, kind value → record title fields origin
        (.object (before ++ (.scalar (.string (some name)), value) :: after)) = .error e) ∧
      (e = cause ∨ ∀ value after, record title fields origin
        (.object (before ++ (.scalar (.string (some name)), value) :: after)) = .error e) := by
  have hrecord (members : List (Document × Document)) :
      record title fields origin (.object members) =
        readMembers fields.list passOver level members [] () >>= fun found =>
          fields.ofMembers level (found.1.lookup ·) := by
    unfold record
    simp only [hlevel]
    rfl
  simp only [hrecord]
  rcases readMembers_append_cons hfind passOver level before [] () with
    ⟨e, hstopped⟩ | ⟨known, state, hreached⟩
  · simp only [hstopped]
    exact ⟨e, fun _ _ _ => rfl, .inr fun _ _ => rfl⟩
  · refine ⟨cause, fun value after hvalue => ?_, .inl rfl⟩
    rw [hreached, hcheck value hvalue]
    rfl

end Members

end Decoder

/-! ### The token at which a reader stops -/

namespace Decoder

variable {α : Type} {decode : Decoder α} {cause : DecodeError} {before before' : List Token}

theorem culprit?_append {lexemes : List Lexeme} {lexeme : Lexeme}
    (h : decode.culprit? cause before lexemes = some lexeme) (more : List Lexeme) :
    decode.culprit? cause before (lexemes ++ more) = some lexeme := by
  induction lexemes generalizing before with
  | nil => cases h
  | cons next rest ih =>
    rw [List.cons_append]
    rw [culprit?] at h ⊢
    split at h
    · rename_i hfails
      rw [if_pos hfails, h]
    · rename_i hfails
      rw [if_neg hfails]
      exact ih h

/-- If tokens are refused for the reason, the reader stops at one of them. -/
theorem exists_culprit? {lexemes : List Lexeme} (hne : lexemes ≠ [])
    (h : decode.failsWith cause (before ++ lexemes.map Lexeme.token) = true) :
    ∃ lexeme, decode.culprit? cause before lexemes = some lexeme := by
  induction lexemes generalizing before with
  | nil => exact absurd rfl hne
  | cons next rest ih =>
    rw [culprit?]
    split
    · exact ⟨_, rfl⟩
    · rename_i hfails
      have hcons : before ++ (next :: rest).map Lexeme.token =
          (before ++ [next.token]) ++ rest.map Lexeme.token := by
        rw [List.map_cons, List.append_assoc, List.singleton_append]
      rw [hcons] at h
      refine ih ?_ h
      rintro rfl
      rw [List.map_nil, List.append_nil] at h
      exact hfails h

/-- The reader stops at the first token that is refused for the reason. -/
theorem culprit?_append_cons {first : List Lexeme}
    (hfirst : ∀ n, decode.failsWith cause (before ++ (first.map Lexeme.token).take n) = false)
    {lexeme : Lexeme}
    (h : decode.failsWith cause (before ++ first.map Lexeme.token ++ [lexeme.token]) = true)
    (more : List Lexeme) :
    decode.culprit? cause before (first ++ lexeme :: more) = some lexeme := by
  induction first generalizing before with
  | nil =>
    rw [List.map_nil, List.append_nil] at h
    rw [List.nil_append, culprit?, if_pos h]
  | cons next rest ih =>
    have hnext : decode.failsWith cause (before ++ [next.token]) = false := hfirst 1
    rw [List.cons_append, culprit?, if_neg (by simp [hnext])]
    refine ih (fun n => ?_) ?_
    · have hlater := hfirst (n + 1)
      simp only [List.map_cons, List.take_succ_cons] at hlater
      rw [List.append_assoc]
      exact hlater
    · simpa using h

/-- **Two readers stop together** if they see flaws together. -/
theorem culprit?_related {related : Lexeme → Lexeme → Prop} {lexemes lexemes' : List Lexeme}
    (h : List.Forall₂ related lexemes lexemes')
    (hfails : ∀ n, decode.failsWith cause (before ++ (lexemes.map Lexeme.token).take n) =
      decode.failsWith cause (before' ++ (lexemes'.map Lexeme.token).take n)) :
    Option.Rel related (decode.culprit? cause before lexemes)
      (decode.culprit? cause before' lexemes') := by
  induction h generalizing before before' with
  | nil => exact .none
  | @cons lexeme lexeme' rest rest' hhead _ ih =>
    have hfirst : decode.failsWith cause (before ++ [lexeme.token]) =
        decode.failsWith cause (before' ++ [lexeme'.token]) := hfails 1
    rw [culprit?, culprit?, hfirst]
    split
    · exact .some hhead
    · refine ih fun n => ?_
      have hnext := hfails (n + 1)
      simp only [List.map_cons, List.take_succ_cons] at hnext
      rw [List.append_assoc, List.append_assoc]
      exact hnext

theorem failsWith_eq_of_sameFailure {related : α → α → Prop} {tokens tokens' : List Token}
    (h : SameFailure related (decode (.text levelLimit) (Document.build .value [] tokens).1)
      (decode (.text levelLimit) (Document.build .value [] tokens').1)) :
    decode.failsWith cause tokens = decode.failsWith cause tokens' := by
  unfold failsWith
  generalize decode (.text levelLimit) (Document.build .value [] tokens).1 = x at h
  generalize decode (.text levelLimit) (Document.build .value [] tokens').1 = y at h
  cases h with
  | error e => rfl
  | ok _ => rfl

theorem failsWith_of_eq_error {tokens : List Token}
    (h : decode (.text levelLimit) (Document.build .value [] tokens).1 = .error cause) :
    decode.failsWith cause tokens = true := by
  unfold failsWith
  rw [h]
  exact decide_eq_true rfl

theorem placeOf_of_culprit? {text : List Char} {lexeme : Lexeme}
    (h : decode.culprit? cause [] (lexemes text) = some lexeme) :
    decode.placeOf cause text =
      .behind (text.take (text.length - (lexeme.unread cause).length)) := by
  rw [placeOf, h]

/-! ### Two texts -/

section Fronts

variable {front : List Char}

/-- Two tokens around which as much is left of the front. -/
def BothInFront (front s s' : List Char) (lexeme lexeme' : Lexeme) : Prop :=
  InFront front s s' lexeme.start lexeme'.start ∧ InFront front s s' lexeme.rest lexeme'.rest

theorem bothInFront_lexemes (front s s' : List Char) :
    List.Forall₂ (BothInFront front s s') ((lexemes front).map (·.append s))
      ((lexemes front).map (·.append s')) := by
  rw [List.forall₂_map_left_iff, List.forall₂_map_right_iff, List.forall₂_same]
  intro lexeme hmem
  obtain ⟨⟨read, hread⟩, ⟨read', hread'⟩⟩ := suffix_of_mem_lexemes hmem
  exact ⟨⟨read, _, hread.symm, rfl, rfl⟩, ⟨read', _, hread'.symm, rfl, rfl⟩⟩

theorem map_token_append (front s : List Char) :
    ((lexemes front).map (·.append s)).map Lexeme.token = Token.scan front := by
  rw [List.map_map, ← map_token_lexemes]
  rfl

/-- Two readers that stop at one of the given tokens, of which they leave as much of the front, stop
at the same place. -/
theorem placeOf_eq_of_culprit? {s s' : List Char} {related : Lexeme → Lexeme → Prop}
    {first first' others others' : List Lexeme}
    (hlexemes : lexemes (front ++ s) = first ++ others)
    (hlexemes' : lexemes (front ++ s') = first' ++ others')
    (hrelated : List.Forall₂ related first first')
    (htokens : first.map Lexeme.token = first'.map Lexeme.token) (hne : first ≠ [])
    (hfails : decode.failsWith cause (first.map Lexeme.token) = true)
    (hunread : ∀ lexeme lexeme', related lexeme lexeme' →
      InFront front s s' (lexeme.unread cause) (lexeme'.unread cause)) :
    decode.placeOf cause (front ++ s) = decode.placeOf cause (front ++ s') := by
  have hboth : Option.Rel related (decode.culprit? cause [] first)
      (decode.culprit? cause [] first') :=
    culprit?_related hrelated fun n => by rw [htokens]
  have hstops : ∃ lexeme, decode.culprit? cause [] first = some lexeme :=
    exists_culprit? hne hfails
  obtain ⟨lexeme, hlexeme⟩ := hstops
  rw [hlexeme] at hboth
  generalize hlexeme' : decode.culprit? cause [] first' = found at hboth
  cases hboth with
  | @some _ lexeme' h =>
    rw [placeOf_of_culprit? (hlexemes ▸ culprit?_append hlexeme others),
      placeOf_of_culprit? (hlexemes' ▸ culprit?_append hlexeme' others')]
    exact (hunread lexeme lexeme' h).behind_eq

variable {name : String} {members : List (Document × Document)}

/-- **Two arrays, or two objects, in the place of a value** are refused at the same place, whatever
they hold and whatever follows, if the texts are refused before them or because of their kind. -/
theorem placeOf_eq_of_opening (hfront : LeadsTo name members front) {c : Char} {token : Token}
    (hc : Token.punctuation? c = some token) (hend : c ≠ '}')
    (h : decode.failsWith cause (Token.scan front) = true ∨
      decode.failsWith cause (Token.scan front ++ [token]) = true ∧
        ∀ lexeme : Lexeme, lexeme.unread cause = lexeme.start) (rest rest' : List Char) :
    decode.placeOf cause (front ++ c :: rest) = decode.placeOf cause (front ++ c :: rest') := by
  have hblank : Token.isBlank c = false := (Token.endsNumber_of_punctuation hc rest).2
  have hboth := bothInFront_lexemes front (c :: rest) (c :: rest')
  rcases h with hfails | ⟨hfails, hunread⟩
  · refine placeOf_eq_of_culprit? (hfront.lexemes_append _) (hfront.lexemes_append _) hboth ?_ ?_ ?_
      fun lexeme lexeme' h => unread_related (fun _ _ h => h.behindEnd hblank hend) h.1 h.2 cause
    · rw [map_token_append, map_token_append]
    · intro hnil
      have htokens := map_token_append front (c :: rest)
      rw [hnil] at htokens
      exact hfront.scan_ne_nil htokens.symm
    · rw [map_token_append]
      exact hfails
  · -- The bracket itself is where the reader stops, or something before it.
    have hsplit (rest : List Char) : lexemes (front ++ c :: rest) =
        ((lexemes front).map (·.append (c :: rest)) ++ [⟨token, c :: rest, rest⟩]) ++
          lexemes rest := by
      rw [hfront.lexemes_append, lexemes_punctuation hc, List.append_assoc]
      rfl
    have hstarts : List.Forall₂
        (fun lexeme lexeme' =>
          InFront front (c :: rest) (c :: rest') lexeme.start lexeme'.start)
        ((lexemes front).map (·.append (c :: rest)) ++ [⟨token, c :: rest, rest⟩])
        ((lexemes front).map (·.append (c :: rest')) ++ [⟨token, c :: rest', rest'⟩]) := by
      refine List.rel_append (hboth.imp fun _ _ h => h.1) (.cons ?_ .nil)
      exact ⟨front, [], (List.append_nil _).symm, rfl, rfl⟩
    refine placeOf_eq_of_culprit? (hsplit rest) (hsplit rest') hstarts ?_ ?_ ?_ ?_
    · simp only [List.map_append, map_token_append, List.map_cons, List.map_nil]
    · simp
    · simp only [List.map_append, map_token_append, List.map_cons, List.map_nil]
      exact hfails
    · intro lexeme lexeme' h
      rw [hunread, hunread]
      exact h

theorem failsWith_take_eq {related : α → α → Prop} {alike : String → Document → Document → Prop}
    (hfront : LeadsTo name members front) {value value' : Scalar}
    (hvalues : alike name (.scalar value) (.scalar value'))
    (hdecode : ∀ document document', ObjectsAlike alike document document' →
      SameFailure related (decode (.text levelLimit) document)
        (decode (.text levelLimit) document')) (back : List Token) (n : ℕ) :
    decode.failsWith cause ((Token.scan front ++ .scalar value :: back).take n) =
      decode.failsWith cause ((Token.scan front ++ .scalar value' :: back).take n) := by
  rw [List.take_append, List.take_append]
  -- Up to the value the tokens are the same.
  cases hn : n - (Token.scan front).length with
  | zero => rfl
  | succ m =>
    have htake : (Token.scan front).take n = Token.scan front := List.take_of_length_le (by omega)
    rw [htake, List.take_succ_cons, List.take_succ_cons]
    refine failsWith_eq_of_sameFailure (hdecode _ _ ?_)
    rw [hfront.build_append, hfront.build_append]
    -- The value is read, and the object goes on.
    have hopen : OpenAlike alike
        [.object ((.scalar (.string (some name)), .scalar value) :: members)]
        [.object ((.scalar (.string (some name)), .scalar value') :: members)] :=
      .object (.cons (.named hvalues) (List.forall₂_same.2 fun m _ => .same m))
    exact (hopen.build .more (back.take m)).1

/-- Two tokens around which the same is left, of the front or of the back. -/
def BothSameLeft (front s s' back : List Char) (lexeme lexeme' : Lexeme) : Prop :=
  SameLeft front s s' back lexeme.start lexeme'.start ∧
    SameLeft front s s' back lexeme.rest lexeme'.rest

theorem bothSameLeft_lexemes (hfront : LeadsTo name members front)
    {content content' : List Char} {value value' : Scalar}
    (hread : Token.scanScalar? '"' content = some (value, []))
    (hread' : Token.scanScalar? '"' content' = some (value', [])) (back : List Char) :
    List.Forall₂ (BothSameLeft front ('"' :: content ++ back) ('"' :: content' ++ back) back)
      (lexemes (front ++ ('"' :: content ++ back)))
      (lexemes (front ++ ('"' :: content' ++ back))) := by
  rw [hfront.lexemes_string hread, hfront.lexemes_string hread']
  refine List.rel_append ?_ (.cons ?_ ?_)
  · exact (bothInFront_lexemes front _ _).imp fun _ _ h => ⟨.inl h.1, .inl h.2⟩
  · exact ⟨.inl ⟨front, [], (List.append_nil _).symm, rfl, rfl⟩, .inr ⟨rfl, List.suffix_rfl⟩⟩
  · rw [List.forall₂_same]
    intro lexeme hmem
    obtain ⟨hstart, hrest⟩ := suffix_of_mem_lexemes hmem
    exact ⟨.inr ⟨rfl, hstart⟩, .inr ⟨rfl, hrest⟩⟩

/-- **Strings of one length do not move a token**, be it of the front, the string itself or one
behind it. -/
theorem places_eq_of_strings (hfront : LeadsTo name members front)
    {content content' : List Char} {value value' : Scalar}
    (hread : Token.scanScalar? '"' content = some (value, []))
    (hread' : Token.scanScalar? '"' content' = some (value', []))
    (hlength : Bytes.utf8Length ('"' :: content) = Bytes.utf8Length ('"' :: content'))
    (back : List Char) :
    places (front ++ ('"' :: content ++ back)) = places (front ++ ('"' :: content' ++ back)) := by
  have hline := Token.newline_not_mem_of_quote hread
  have hline' := Token.newline_not_mem_of_quote hread'
  unfold places
  rw [← List.forall₂_eq_eq_eq, List.forall₂_map_left_iff, List.forall₂_map_right_iff]
  refine (bothSameLeft_lexemes hfront hread hread' back).imp fun lexeme lexeme' h => ?_
  exact Prod.ext (h.1.behind_eq hline hline' hlength) (h.2.behind_eq hline hline' hlength)

/-- **Two strings of one length in the place of a value** are refused at the same place, if the
reader does not tell objects apart that hold the one or the other. -/
theorem placeOf_eq_of_strings {related : α → α → Prop}
    {alike : String → Document → Document → Prop} (hfront : LeadsTo name members front)
    {content content' : List Char} {value value' : Scalar}
    (hread : Token.scanScalar? '"' content = some (value, []))
    (hread' : Token.scanScalar? '"' content' = some (value', []))
    (hlength : Bytes.utf8Length ('"' :: content) = Bytes.utf8Length ('"' :: content'))
    (hvalues : alike name (.scalar value) (.scalar value'))
    (hdecode : ∀ document document', ObjectsAlike alike document document' →
      SameFailure related (decode (.text levelLimit) document)
        (decode (.text levelLimit) document')) (cause : DecodeError) (back : List Char) :
    decode.placeOf cause (front ++ ('"' :: content ++ back)) =
      decode.placeOf cause (front ++ ('"' :: content' ++ back)) := by
  have hline := Token.newline_not_mem_of_quote hread
  have hline' := Token.newline_not_mem_of_quote hread'
  have hboth : Option.Rel
      (BothSameLeft front ('"' :: content ++ back) ('"' :: content' ++ back) back)
      (decode.culprit? cause [] (lexemes (front ++ ('"' :: content ++ back))))
      (decode.culprit? cause [] (lexemes (front ++ ('"' :: content' ++ back)))) := by
    refine culprit?_related (bothSameLeft_lexemes hfront hread hread' back) fun n => ?_
    rw [hfront.lexemes_string hread, hfront.lexemes_string hread']
    simp only [List.map_append, map_token_append, List.map_cons, List.nil_append]
    exact failsWith_take_eq hfront hvalues hdecode _ n
  unfold placeOf
  generalize decode.culprit? cause [] (lexemes (front ++ ('"' :: content ++ back))) = found
    at hboth ⊢
  generalize decode.culprit? cause [] (lexemes (front ++ ('"' :: content' ++ back))) = found'
    at hboth ⊢
  cases hboth with
  | none =>
    simp only [← List.append_assoc]
    exact Place.behind_congr hline hline' hlength front back
  | some h =>
    exact SameLeft.behind_eq hline hline' hlength
      (unread_related (fun _ _ h => h.behindEnd rfl (by decide)) h.1 h.2 cause)

end Fronts

end Decoder

end Remit.Json
