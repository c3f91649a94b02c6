import Showrunner.Proofs.Run
import Showrunner.Proofs.Script.Trail

/-!
Block comments in a script. Main statement: `ofText_without_comment`.
-/

namespace Showrunner.Script

/-- A line with which a comment begins that what follows on the line does not close. -/
def Opens (line : String) : Prop :=
  startsComment (Text.trim line).toList ∧ ¬ endsComment ((Text.trim line).toList.drop 2)

/-- A line that ends the comment it is in. With a hash sign in front it does not. -/
def Closes (line : String) : Prop :=
  endsComment (Text.trim line).toList ∧ (Text.trim line).toList.head? ≠ some '#'

instance : DecidablePred Opens := fun _ => inferInstanceAs (Decidable (_ ∧ _))

instance : DecidablePred Closes := fun _ => inferInstanceAs (Decidable (_ ∧ _))

/-- The lines of a block comment, with those after it: it goes to the first line that closes it, or
else to the end. -/
inductive BlockComment : List String → List String → Prop
  | closed {opener closer : String} {body after : List String} (ho : Opens opener)
    (hb : ∀ line ∈ body, ¬ Closes line) (hc : Closes closer) :
    BlockComment (opener :: (body ++ [closer])) after
  | unclosed {opener : String} {body : List String} (ho : Opens opener)
    (hb : ∀ line ∈ body, ¬ Closes line) : BlockComment (opener :: body) []

/-- Whether a comment is open behind some lines, unless one of them ended the file. -/
def commentAfter (inComment : Bool) : List String → Option Bool
  | [] => some inComment
  | raw :: rest =>
    match screen inComment (Text.trim raw) with
    | .skip => commentAfter inComment rest
    | .comment stillOpen => commentAfter stillOpen rest
    | .text =>
      if Directive.ofLine (stripAnd (Text.trim raw)) = .endFile then none
      else commentAfter inComment rest

def Loader.bare (l : Loader) : Loader := { l with problems := [] }

def Reading.bare (r : Reading) : Reading := { r with loader := r.loader.bare }

/-- A file reader that does not look at the problems so far. -/
def Blind (read : Loader → Path → Except LoadError Loader) : Prop :=
  ∀ l path, (read l path).map Loader.bare = (read l.bare path).map Loader.bare

def Reading.setComment (r : Reading) (stillOpen : Bool) : Reading :=
  { r with file.inComment := stillOpen }

def Reading.begin (l : Loader) : Reading := ⟨l, ⟨none, [], false⟩, false⟩

variable {read : Loader → Path → Except LoadError Loader} {r r' : Reading} {folder : Path}
  {source line : String} {number : Nat}

section Bare

theorem bare_define (l : Loader) (c : Scene) : (l.define c).bare = (l.bare.define c).bare := by
  have hs : l.bare.scenes = l.scenes := rfl
  unfold Loader.define
  rw [hs]
  split <;> rfl

theorem bare_close (r : Reading) (folder : Path) :
    (r.close folder).bare = (r.bare.close folder).bare := by
  obtain ⟨loader, ⟨block, held, inComment⟩, done⟩ := r
  cases block with
  | none => rfl
  | some name =>
    cases held with
    | nil => rfl
    | cons line held =>
      exact congrArg (fun l => (⟨l, ⟨none, [], inComment⟩, done⟩ : Reading)) (bare_define loader _)

theorem bare_keep (r : Reading) (line : String) : (r.keep line).bare = (r.bare.keep line).bare := by
  obtain ⟨loader, ⟨block, held, inComment⟩, done⟩ := r
  cases block <;> rfl

/-- A line is obeyed in the same way whatever its number is and whatever problems were met. -/
theorem obey_bare (hread : Blind read) (folder : Path) (source : String) (n m : Nat) (r : Reading)
    (text : String) : (r.obey read folder source n text).map Reading.bare =
      (r.bare.obey read folder source m text).map Reading.bare := by
  have hclose := bare_close r folder
  unfold Reading.obey
  dsimp only
  cases Directive.ofLine (stripAnd text) with
  | scene name? =>
    cases name? with
    | none => rfl
    | some name =>
      dsimp only
      cases name == topLevel with
      | true => exact congrArg Except.ok hclose
      | false =>
        exact congrArg (fun r => Except.ok { r with file.block := some name }) hclose
  | endScene => exact congrArg Except.ok hclose
  | endFile | strayEnd => rfl
  | «include» file? =>
    cases file? with
    | none => rfl
    | some file =>
      have hl : r.bare.loader = r.loader.bare := rfl
      dsimp only
      rw [hl]
      rcases error_or_ok_of_map_eq (hread r.loader (folder.join ⟨file⟩)) with
        ⟨e, hx, hy⟩ | ⟨l, l', hx, hy, hbare⟩
      · rw [hx, hy]
        rfl
      · rw [hx, hy]
        exact congrArg (fun l => Except.ok (⟨l, r.file, r.done⟩ : Reading)) hbare
  | content => exact congrArg Except.ok (bare_keep r _)

theorem step_bare (hread : Blind read) (folder : Path) (source : String) (n m : Nat) (r : Reading)
    (line : String) : (r.step read folder source (line, n)).map Reading.bare =
      (r.bare.step read folder source (line, m)).map Reading.bare := by
  have hdone : r.bare.done = r.done := rfl
  have hfile : r.bare.file = r.file := rfl
  unfold Reading.step
  rw [hdone, hfile]
  split
  · rfl
  · dsimp only
    cases screen r.file.inComment (Text.trim line) with
    | skip | comment => rfl
    | text => exact obey_bare hread folder source _ _ r _

/-- Lines are read in the same way wherever they stand in a file. -/
theorem foldlM_step_bare (hread : Blind read) (folder : Path) (source : String)
    (lines : List String) (n m : Nat) (h : r.bare = r'.bare) :
    ((lines.zipIdx n).foldlM (Reading.step read folder source) r).map Reading.bare =
      ((lines.zipIdx m).foldlM (Reading.step read folder source) r').map Reading.bare := by
  induction lines generalizing n m r r' with
  | nil => exact congrArg Except.ok h
  | cons line lines ih =>
    have hstep : (r.step read folder source (line, n)).map Reading.bare =
        (r'.step read folder source (line, m)).map Reading.bare := by
      rw [step_bare hread folder source n 0 r line, h, ← step_bare hread folder source m 0 r' line]
    rw [List.zipIdx_cons, List.zipIdx_cons, List.foldlM_cons, List.foldlM_cons]
    rcases error_or_ok_of_map_eq hstep with ⟨e, hx, hy⟩ | ⟨r₁, r₂, hx, hy, hbare⟩
    · rw [hx, hy]
      rfl
    · rw [hx, hy]
      exact ih (n + 1) (m + 1) hbare

theorem map_close_bare {x y : Except LoadError Reading}
    (h : x.map Reading.bare = y.map Reading.bare) (folder : Path) :
    (x.map fun r => (r.close folder).loader).map Loader.bare =
      (y.map fun r => (r.close folder).loader).map Loader.bare := by
  rcases error_or_ok_of_map_eq h with ⟨e, rfl, rfl⟩ | ⟨r, r', rfl, rfl, hbare⟩
  · rfl
  · have hclose : (r.close folder).bare = (r'.close folder).bare := by
      rw [bare_close, hbare, ← bare_close]
    exact congrArg (fun r : Reading => Except.ok r.loader) hclose

theorem readText_eq (read : Loader → Path → Except LoadError Loader) (folder : Path)
    (source text : String) (l : Loader) : readText read folder source text l =
      ((Text.lines text).zipIdx.foldlM (Reading.step read folder source) (.begin l)).map
        fun r => (r.close folder).loader := rfl

theorem readText_bare (hread : Blind read) (folder : Path) (source text : String) (l : Loader) :
    (readText read folder source text l).map Loader.bare =
      (readText read folder source text l.bare).map Loader.bare := by
  have hbegin : (Reading.begin l).bare = (Reading.begin l.bare).bare := rfl
  rw [readText_eq, readText_eq]
  exact map_close_bare (foldlM_step_bare hread folder source (Text.lines text) 0 0 hbegin) folder

theorem blind_of_texts {d : Disk} {unread : Nat}
    (h : ∀ (l : Loader) path place text, d.resolve? path = some place →
      d.node? place = some (.file (some text)) → place ∉ l.visited →
      (readFile d unread l path).map Loader.bare =
        (readFile d unread l.bare path).map Loader.bare) :
    Blind (readFile d unread) := by
  intro l path
  by_cases hf : ∃ text?, d.find? path = some (.file text?)
  · obtain ⟨text?, hf⟩ := hf
    obtain ⟨place, hp, hn⟩ := Option.bind_eq_some_iff.mp hf
    by_cases hv : place ∈ l.visited
    · have hv' : place ∈ l.bare.visited := hv
      rw [readFile_again hp hn hv, readFile_again hp hn hv']
      rfl
    · cases text? with
      | none =>
        have hv' : place ∉ l.bare.visited := hv
        rw [readFile_unreadable hp hn hv, readFile_unreadable hp hn hv']
      | some text => exact h l path place text hp hn hv
  · rw [readFile_missing (not_exists.mp hf), readFile_missing (not_exists.mp hf)]

theorem blind_readFile (d : Disk) (unread : Nat) : Blind (readFile d unread) := by
  induction unread with
  | zero =>
    refine blind_of_texts fun l path place text hp hn hv => ?_
    have hv' : place ∉ l.bare.visited := hv
    rw [readFile_spent hp hn hv, readFile_spent hp hn hv']
    rfl
  | succ unread ih =>
    refine blind_of_texts fun l path place text hp hn hv => ?_
    have hv' : place ∉ l.bare.visited := hv
    rw [readFile_reads hp hn hv, readFile_reads hp hn hv']
    exact readText_bare ih path.parent path.text text { l with visited := place :: l.visited }

end Bare

section Comment

theorem exists_eq_append_of_startsComment (h : startsComment line.toList) :
    ∃ rest : String, line = "/*" ++ rest := by
  obtain ⟨rest, hrest⟩ := List.isPrefixOf_iff_prefix.mp h
  refine ⟨.ofList rest, ?_⟩
  rw [← String.ofList_toList (s := line), ← hrest, String.ofList_append]

theorem toList_opener_append (rest : String) :
    ("/*" ++ rest).toList = '/' :: '*' :: rest.toList := by
  rw [String.toList_append]
  rfl

theorem two_le_of_endsComment (h : endsComment line.toList) : 2 ≤ line.utf8ByteSize := by
  obtain ⟨before, hbefore⟩ := List.isSuffixOf_iff_suffix.mp h
  rw [← String.ofList_toList (s := line), ← hbefore, String.ofList_append,
    String.utf8ByteSize_append]
  exact Nat.le_add_left _ _

/-- What opens a comment and what closes it have no characters in common. -/
theorem endsComment_append (rest : String) :
    (4 ≤ ("/*" ++ rest).utf8ByteSize && endsComment ("/*" ++ rest).toList) =
      endsComment rest.toList := by
  have htwo : "/*".utf8ByteSize = 2 := by decide
  have hl := toList_opener_append rest
  rw [String.utf8ByteSize_append, htwo, hl, Bool.eq_iff_iff, Bool.and_eq_true, decide_eq_true_eq]
  constructor
  · rintro ⟨hsize, hend⟩
    have hsuffix := List.isSuffixOf_iff_suffix.mp hend
    rcases List.suffix_cons_iff.mp hsuffix with heq | hsuffix
    · cases heq
    · rcases List.suffix_cons_iff.mp hsuffix with heq | hsuffix
      · -- only the slash of the opener is left for the closing
        have hrest : rest = "/" := String.toList_inj.mp (List.cons.inj heq).2.symm
        rw [hrest] at hsize
        exact absurd hsize (by decide)
      · exact List.isSuffixOf_iff_suffix.mpr hsuffix
  · intro hend
    have hsize := two_le_of_endsComment hend
    have hsuffix := List.isSuffixOf_iff_suffix.mp hend
    refine ⟨by omega, List.isSuffixOf_iff_suffix.mpr ?_⟩
    exact hsuffix.trans ((List.suffix_cons _ _).trans (List.suffix_cons _ _))

theorem not_skipped (hsize : 2 ≤ line.utf8ByteSize) (hhash : line.toList.head? ≠ some '#') :
    (line.utf8ByteSize < 2 || line.toList.head? == some '#') = false := by
  rw [Bool.or_eq_false_iff, decide_eq_false_iff_not, beq_eq_false_iff_ne]
  exact ⟨Nat.not_lt.mpr hsize, hhash⟩

theorem screen_opens (h : Opens line) : screen false (Text.trim line) = .comment true := by
  obtain ⟨hstart, hend⟩ := h
  obtain ⟨rest, hrest⟩ := exists_eq_append_of_startsComment hstart
  have hl := toList_opener_append rest
  have hsize : 2 ≤ ("/*" ++ rest).utf8ByteSize := by
    rw [String.utf8ByteSize_append]
    exact Nat.le_add_right 2 _
  have hhash : ("/*" ++ rest).toList.head? ≠ some '#' := by
    rw [hl]
    exact fun h => absurd (Option.some.inj h) (by decide)
  rw [hrest] at hstart hend ⊢
  have hopen : endsComment rest.toList = false := by simpa [hl] using hend
  unfold screen
  dsimp only
  rw [not_skipped hsize hhash, hstart, endsComment_append, hopen]
  rfl

theorem screen_body (h : ¬ Closes line) : screen true (Text.trim line) = .skip ∨
    screen true (Text.trim line) = .comment true := by
  unfold screen
  dsimp only
  split
  · exact .inl rfl
  · next hskip =>
    have hhash : (Text.trim line).toList.head? ≠ some '#' := fun hhash => hskip (by simp [hhash])
    have hend : endsComment (Text.trim line).toList = false :=
      Bool.not_eq_true _ ▸ fun hend => h ⟨hend, hhash⟩
    rw [hend]
    exact .inr rfl

theorem screen_closes (h : Closes line) : screen true (Text.trim line) = .comment false := by
  obtain ⟨hend, hhash⟩ := h
  have hsize := two_le_of_endsComment hend
  unfold screen
  dsimp only
  rw [not_skipped hsize hhash, hend]
  rfl

variable {inComment stillOpen : Bool}

theorem step_of_running (hd : r.done = false) (number : Nat) :
    r.step read folder source (line, number) =
      match screen r.file.inComment (Text.trim line) with
      | .skip => .ok r
      | .comment stillOpen => .ok (r.setComment stillOpen)
      | .text => r.obey read folder source (number + 1) (Text.trim line) :=
  if_neg (by rw [hd]; nofun)

theorem step_skip (hd : r.done = false) (hs : screen r.file.inComment (Text.trim line) = .skip)
    (number : Nat) : r.step read folder source (line, number) = .ok r := by
  rw [step_of_running hd, hs]

theorem step_comment (hd : r.done = false)
    (hs : screen r.file.inComment (Text.trim line) = .comment stillOpen) (number : Nat) :
    r.step read folder source (line, number) = .ok (r.setComment stillOpen) := by
  rw [step_of_running hd, hs]

theorem obey_keeps {text : String} (hend : Directive.ofLine (stripAnd text) ≠ .endFile)
    (ho : r.obey read folder source number text = .ok r') :
    r'.done = r.done ∧ r'.file.inComment = r.file.inComment := by
  by_cases hfile : ∃ file, Directive.ofLine (stripAnd text) = .include (some file)
  · obtain ⟨file, hfile⟩ := hfile
    rw [obey_include hfile] at ho
    cases hx : read r.loader (folder.join ⟨file⟩) with
    | error e => rw [hx] at ho; cases ho
    | ok l =>
      rw [hx] at ho
      cases ho
      exact ⟨rfl, rfl⟩
  · obtain ⟨-, r₁, hr₁, hdone, hcomment, -⟩ :=
      obey_plain folder source number r hend (not_exists.mp hfile)
    rw [obey_eq_pure (not_exists.mp hfile) hr₁] at ho
    cases ho
    exact ⟨hdone, hcomment⟩

theorem reached_of_foldlM {lines : List (String × Nat)} (hd : r.done = false)
    (hc : commentAfter r.file.inComment (lines.map (·.1)) = some inComment)
    (hf : lines.foldlM (Reading.step read folder source) r = .ok r') :
    r'.done = false ∧ r'.file.inComment = inComment := by
  induction lines generalizing r with
  | nil =>
    cases hf
    cases hc
    exact ⟨hd, rfl⟩
  | cons line lines ih =>
    rw [List.foldlM_cons] at hf
    rw [List.map_cons, commentAfter] at hc
    cases hs : screen r.file.inComment (Text.trim line.1) with
    | skip =>
      rw [hs] at hc
      rw [step_skip hd hs] at hf
      exact ih hd hc hf
    | comment stillOpen =>
      rw [hs] at hc
      rw [step_comment hd hs] at hf
      exact ih (r := r.setComment stillOpen) hd hc hf
    | text =>
      rw [hs] at hc
      dsimp only at hc
      split at hc
      · cases hc
      · next hend =>
        have hstep : r.step read folder source line =
            r.obey read folder source (line.2 + 1) (Text.trim line.1) := by
          rw [step_of_running hd, hs]
        rw [hstep] at hf
        cases ho : r.obey read folder source (line.2 + 1) (Text.trim line.1) with
        | error e => rw [ho] at hf; cases hf
        | ok r₁ =>
          rw [ho] at hf
          obtain ⟨hdone, hcomment⟩ := obey_keeps hend ho
          rw [← hcomment] at hc
          exact ih (hdone.trans hd) hc hf

theorem foldlM_step_body (hd : r.done = false) (hi : r.file.inComment = true) {body : List String}
    (hb : ∀ line ∈ body, ¬ Closes line) (n : Nat) :
    (body.zipIdx n).foldlM (Reading.step read folder source) r = .ok r := by
  induction body generalizing n with
  | nil => rfl
  | cons line body ih =>
    obtain ⟨hline, hbody⟩ := List.forall_mem_cons.mp hb
    have hsame : r.setComment true = r := by rw [← hi, Reading.setComment]
    have hstep : r.step read folder source (line, n) = .ok r := by
      rcases screen_body hline with hs | hs
      · exact step_skip hd (by rwa [hi]) n
      · rw [step_comment hd (by rwa [hi]), hsame]
    rw [List.zipIdx_cons, List.foldlM_cons, hstep]
    exact ih hbody (n + 1)

theorem foldlM_step_unclosed {opener : String} {body : List String} (ho : Opens opener)
    (hb : ∀ line ∈ body, ¬ Closes line) (hd : r.done = false) (hi : r.file.inComment = false)
    (n : Nat) : ((opener :: body).zipIdx n).foldlM (Reading.step read folder source) r =
      .ok (r.setComment true) := by
  have hopen : screen r.file.inComment (Text.trim opener) = .comment true := by
    rw [hi]
    exact screen_opens ho
  rw [List.zipIdx_cons, List.foldlM_cons, step_comment hd hopen]
  exact foldlM_step_body (r := r.setComment true) hd rfl hb (n + 1)

/-- A comment leaves nothing behind but that it may be open still, at the end of the text. -/
theorem BlockComment.foldlM_step {comment after : List String} (h : BlockComment comment after)
    (hd : r.done = false) (hi : r.file.inComment = false) (n : Nat) :
    (comment.zipIdx n).foldlM (Reading.step read folder source) r = .ok r ∨
      after = [] ∧ (comment.zipIdx n).foldlM (Reading.step read folder source) r =
        .ok (r.setComment true) := by
  cases h with
  | @closed opener closer body _ ho hb hc =>
    have hsame : r.setComment false = r := by rw [← hi, Reading.setComment]
    have hclose : (r.setComment true).step read folder source
        (closer, n + (opener :: body).length) = .ok r := by
      have hstep : (r.setComment true).step read folder source
          (closer, n + (opener :: body).length) = .ok ((r.setComment true).setComment false) :=
        step_comment (r := r.setComment true) hd (screen_closes hc) _
      exact hstep.trans (congrArg Except.ok hsame)
    refine .inl ?_
    rw [← List.cons_append, List.zipIdx_append, List.foldlM_append,
      foldlM_step_unclosed ho hb hd hi, List.zipIdx_singleton]
    change [_].foldlM (Reading.step read folder source) (r.setComment true) = .ok r
    rw [List.foldlM_cons, hclose]
    rfl
  | unclosed ho hb => exact .inr ⟨rfl, foldlM_step_unclosed ho hb hd hi n⟩

theorem loader_close_setComment (r : Reading) (stillOpen : Bool) (folder : Path) :
    ((r.setComment stillOpen).close folder).loader = (r.close folder).loader := by
  obtain ⟨loader, ⟨block, held, inComment⟩, done⟩ := r
  cases block with
  | none => rfl
  | some name => cases held <;> rfl

theorem foldlM_without_comment (hread : Blind read) (folder : Path) (source : String)
    {comment after : List String} (hc : BlockComment comment after) (hd : r.done = false)
    (hi : r.file.inComment = false) (n m : Nat) :
    ((((comment ++ after).zipIdx n).foldlM (Reading.step read folder source) r).map
      fun r => (r.close folder).loader).map Loader.bare =
    (((after.zipIdx m).foldlM (Reading.step read folder source) r).map
      fun r => (r.close folder).loader).map Loader.bare := by
  have hcomment : (comment.zipIdx n).foldlM (Reading.step read folder source) r = .ok r ∨
      after = [] ∧ (comment.zipIdx n).foldlM (Reading.step read folder source) r =
        .ok (r.setComment true) := hc.foldlM_step hd hi n
  rw [List.zipIdx_append, List.foldlM_append]
  rcases hcomment with hcomment | ⟨rfl, hcomment⟩
  · -- the lines behind the comment have other numbers without it, which only problems tell
    rw [hcomment]
    exact map_close_bare (foldlM_step_bare hread folder source after _ m rfl) folder
  · rw [hcomment]
    exact congrArg (fun l => Except.ok l.bare) (loader_close_setComment r true folder)

theorem readText_without_comment (hread : Blind read) (folder : Path) (source : String) (l : Loader)
    {text text' : String} {before comment after : List String}
    (ht : Text.lines text = before ++ comment ++ after) (ht' : Text.lines text' = before ++ after)
    (hb : commentAfter false before = some false) (hc : BlockComment comment after) :
    (readText read folder source text l).map Loader.bare =
      (readText read folder source text' l).map Loader.bare := by
  have hsplit (more : List String) :
      (before ++ more).zipIdx = before.zipIdx ++ more.zipIdx before.length := by
    rw [List.zipIdx_append, Nat.zero_add]
  rw [readText_eq, readText_eq, ht, ht', List.append_assoc, hsplit, hsplit, List.foldlM_append,
    List.foldlM_append]
  cases hx : before.zipIdx.foldlM (Reading.step read folder source) (.begin l) with
  | error e => rfl
  | ok r =>
    have hb' : commentAfter (Reading.begin l).file.inComment (before.zipIdx.map (·.1)) =
        some false := by
      rw [List.zipIdx_map_fst]
      exact hb
    obtain ⟨hdone, hi⟩ := reached_of_foldlM rfl hb' hx
    exact foldlM_without_comment hread folder source hc hdone hi _ _

/-- A script has the same scenes without the lines of a block comment, whatever these are. -/
theorem ofText_without_comment {text text' : String} {before comment after : List String}
    (ht : Text.lines text = before ++ comment ++ after) (ht' : Text.lines text' = before ++ after)
    (hb : commentAfter false before = some false) (hc : BlockComment comment after) (d : Disk)
    (folder : Path) :
    (ofText d text folder).map (·.scenes) = (ofText d text' folder).map (·.scenes) := by
  have hbare := readText_without_comment (blind_readFile d d.nodes.length) folder "<script>"
    (.start folder) ht ht' hb hc
  have hfinish : ∀ l : Loader, l.finish.scenes = l.bare.finish.scenes := by
    intro l
    rw [scenes_finish, scenes_finish]
    rfl
  unfold ofText
  rcases error_or_ok_of_map_eq hbare with ⟨e, hx, hy⟩ | ⟨l, l', hx, hy, hl⟩
  · rw [hx, hy]
  · have hscenes : l.finish.scenes = l'.finish.scenes := by rw [hfinish, hl, ← hfinish]
    rw [hx, hy]
    exact congrArg Except.ok hscenes

def remarks : List String := ["finish", "# no end */", "scene b", "x", "/* more"]

theorem ofText_without_comment_remarks :
    (ofText .empty (Text.joinWith "\n"
      (["scene a", "echo one"] ++ "/* a note" :: (remarks ++ ["that is it */"]) ++
        ["echo two", "end scene", "begin"])) ⟨"."⟩).map (·.scenes) =
      (ofText .empty (Text.joinWith "\n" ["scene a", "echo one", "echo two", "end scene", "begin"])
        ⟨"."⟩).map (·.scenes) := by
  have hc : BlockComment ("/* a note" :: (remarks ++ ["that is it */"]))
      ["echo two", "end scene", "begin"] :=
    .closed (by decide +kernel) (by decide +kernel) (by decide +kernel)
  have hb : commentAfter false ["scene a", "echo one"] = some false := by decide +kernel
  exact ofText_without_comment (by decide +kernel) (by decide +kernel) hb hc .empty ⟨"."⟩

def contents (text : String) : Option (List (String × List String)) :=
  (ofText .empty text ⟨"."⟩).toOption.map fun script =>
    script.scenes.map fun c => (c.name, c.content)

/-- A line that ends a comment is not seen with a hash sign in front of it, and the comment takes
the rest of the text. -/
theorem ofText_without_comment_hash :
    Text.lines "begin\n/*\n# note */\necho shown\n" =
      ["begin"] ++ ["/*", "# note */"] ++ ["echo shown"] ∧
    commentAfter false ["begin"] = some false ∧ Opens "/*" ∧ endsComment "# note */".toList ∧
    contents "begin\n/*\n# note */\necho shown\n" = some [("main", ["begin"])] ∧
    contents "begin\necho shown\n" = some [("main", ["begin", "echo shown"])] := by
  decide +kernel

end Comment

end Showrunner.Script
