import Showrunner.Proofs.Script.Faithful
import Showrunner.Proofs.Script.Recording

/-!
The files that the loading of a script asks for, one after the other. Main statement:
`Root.load_trail`.
-/

namespace Showrunner.Script

/-- What comes of asking for a file: there is none, it holds no text, it was read before, or its
text is read. -/
inductive Visit where
  | missing (path : Path)
  | unreadable (path : Path)
  | again (path : Path)
  | reads (path : Path) (place : Place)
deriving DecidableEq, Repr

namespace Visit

def error? : Visit → Option LoadError
  | missing path => some (.missing path)
  | unreadable path => some (.unreadable path)
  | again _ | reads _ _ => none

def place? : Visit → Option Place
  | reads _ place => some place
  | missing _ | unreadable _ | again _ => none

def repeated? : Visit → Option String
  | again path => some path.text
  | missing _ | unreadable _ | reads _ _ => none

end Visit

def Mark.file? : Mark → Option String
  | .include file => some file
  | .opens _ | .ends | .keep _ => none

def includes (text : String) : List String := (marks text).filterMap Mark.file?

mutual

/-- Asking for a file, with some read already, comes to a trail. Unless something in it failed,
there are in the end the files that were read by then. -/
inductive FileTrail (d : Disk) : List Place → Path → List Visit → Option (List Place) → Prop
  | missing {visited : List Place} {path : Path}
    (hf : ∀ text?, d.find? path ≠ some (.file text?)) :
    FileTrail d visited path [.missing path] none
  | again {visited : List Place} {path : Path} {place : Place} {text? : Option String}
    (hp : d.resolve? path = some place) (hn : d.node? place = some (.file text?))
    (hv : place ∈ visited) : FileTrail d visited path [.again path] (some visited)
  | unreadable {visited : List Place} {path : Path} {place : Place}
    (hp : d.resolve? path = some place) (hn : d.node? place = some (.file none))
    (hv : place ∉ visited) : FileTrail d visited path [.unreadable path] none
  | reads {visited : List Place} {path : Path} {place : Place} {text : String}
    {trail : List Visit} {out : Option (List Place)} (hp : d.resolve? path = some place)
    (hn : d.node? place = some (.file (some text))) (hv : place ∉ visited)
    (h : IncludesTrail d path.parent (place :: visited) (includes text) trail out) :
    FileTrail d visited path (.reads path place :: trail) out

/-- Asking for the files that a text from a folder includes comes to a trail. What fails in one of
them ends it all. -/
inductive IncludesTrail (d : Disk) :
    Path → List Place → List String → List Visit → Option (List Place) → Prop
  | done {folder : Path} {visited : List Place} :
    IncludesTrail d folder visited [] [] (some visited)
  | fails {folder : Path} {visited : List Place} {file : String} {files : List String}
    {trail : List Visit} (hf : FileTrail d visited (folder.join ⟨file⟩) trail none) :
    IncludesTrail d folder visited (file :: files) trail none
  | next {folder : Path} {visited between : List Place} {file : String} {files : List String}
    {trail rest : List Visit} {out : Option (List Place)}
    (hf : FileTrail d visited (folder.join ⟨file⟩) trail (some between))
    (h : IncludesTrail d folder between files rest out) :
    IncludesTrail d folder visited (file :: files) (trail ++ rest) out

end

variable {d : Disk}

mutual

theorem FileTrail.unique {visited : List Place} {path : Path} {trail trail' : List Visit}
    {out out' : Option (List Place)} :
    FileTrail d visited path trail out → FileTrail d visited path trail' out' →
      trail = trail' ∧ out = out'
  | .missing hf, h => by
    cases h with
    | missing => exact ⟨rfl, rfl⟩
    | again hp hn | unreadable hp hn | reads hp hn =>
      exact absurd ((Disk.find?_of_resolve? hp).trans hn) (hf _)
  | .again hp hn hv, h => by
    cases h with
    | missing hf => exact absurd ((Disk.find?_of_resolve? hp).trans hn) (hf _)
    | again => exact ⟨rfl, rfl⟩
    | unreadable hp' _ hv' | reads hp' _ hv' =>
      cases hp.symm.trans hp'
      exact absurd hv hv'
  | .unreadable hp hn hv, h => by
    cases h with
    | missing hf => exact absurd ((Disk.find?_of_resolve? hp).trans hn) (hf _)
    | again hp' _ hv' =>
      cases hp.symm.trans hp'
      exact absurd hv' hv
    | unreadable => exact ⟨rfl, rfl⟩
    | reads hp' hn' =>
      cases hp.symm.trans hp'
      cases hn.symm.trans hn'
  | .reads hp hn hv h, h' => by
    cases h' with
    | missing hf => exact absurd ((Disk.find?_of_resolve? hp).trans hn) (hf _)
    | again hp' _ hv' =>
      cases hp.symm.trans hp'
      exact absurd hv' hv
    | unreadable hp' hn' =>
      cases hp.symm.trans hp'
      cases hn.symm.trans hn'
    | reads hp' hn' _ h' =>
      cases hp.symm.trans hp'
      cases hn.symm.trans hn'
      obtain ⟨rfl, rfl⟩ := h.unique h'
      exact ⟨rfl, rfl⟩

theorem IncludesTrail.unique {folder : Path} {visited : List Place} {files : List String}
    {trail trail' : List Visit} {out out' : Option (List Place)} :
    IncludesTrail d folder visited files trail out →
      IncludesTrail d folder visited files trail' out' → trail = trail' ∧ out = out'
  | .done, h => by
    cases h
    exact ⟨rfl, rfl⟩
  | .fails hf, h => by
    cases h with
    | fails hf' => exact ⟨(hf.unique hf').1, rfl⟩
    | next hf' => cases (hf.unique hf').2
  | .next hf h, h' => by
    cases h' with
    | fails hf' => cases (hf.unique hf').2
    | next hf' h' =>
      obtain ⟨rfl, he⟩ := hf.unique hf'
      cases he
      obtain ⟨rfl, rfl⟩ := h.unique h'
      exact ⟨rfl, rfl⟩

end

/-- The texts along a trail are read once each, and none that was read before. -/
structure Once (visited : List Place) (trail : List Visit) (out : Option (List Place)) : Prop where
  nodup : (trail.filterMap Visit.place?).Nodup
  fresh : ∀ place ∈ trail.filterMap Visit.place?, place ∉ visited
  after : ∀ after ∈ out, after = (trail.filterMap Visit.place?).reverse ++ visited

namespace Once

variable {visited between : List Place} {trail rest : List Visit} {out : Option (List Place)}

theorem append (h : Once visited trail (some between)) (k : Once between rest out) :
    Once visited (trail ++ rest) out := by
  have hb := h.after between rfl
  -- the rest starts with all that the trail has read
  have hmem : ∀ place ∈ rest.filterMap Visit.place?,
      place ∉ trail.filterMap Visit.place? ∧ place ∉ visited := by
    intro place hp
    have hn := k.fresh place hp
    rw [hb, List.mem_append, List.mem_reverse] at hn
    exact not_or.mp hn
  refine ⟨?_, fun place hp => ?_, fun after ha => ?_⟩
  · rw [List.filterMap_append, List.nodup_append]
    exact ⟨h.nodup, k.nodup, fun p hp q hq he => (hmem q hq).1 (he ▸ hp)⟩
  · rw [List.filterMap_append, List.mem_append] at hp
    exact hp.elim (h.fresh place) fun hp => (hmem place hp).2
  · rw [k.after after ha, hb, List.filterMap_append, List.reverse_append, List.append_assoc]

theorem reads {place : Place} (hv : place ∉ visited) (h : Once (place :: visited) trail out)
    (path : Path) : Once visited (.reads path place :: trail) out := by
  have hmem : ∀ p ∈ trail.filterMap Visit.place?, p ≠ place ∧ p ∉ visited := fun p hp =>
    not_or.mp fun hm => h.fresh p hp (List.mem_cons.mpr hm)
  have hplaces : (Visit.reads path place :: trail).filterMap Visit.place? =
      place :: trail.filterMap Visit.place? := List.filterMap_cons_some rfl
  refine ⟨?_, fun p hp => ?_, fun after ha => ?_⟩
  · rw [hplaces]
    exact List.nodup_cons.mpr ⟨fun hp => (hmem place hp).1 rfl, h.nodup⟩
  · rw [hplaces] at hp
    rcases List.mem_cons.mp hp with rfl | hp
    · exact hv
    · exact (hmem p hp).2
  · rw [h.after after ha, hplaces, List.reverse_cons, List.append_assoc, List.singleton_append]

end Once

mutual

theorem FileTrail.once {visited : List Place} {path : Path} {trail : List Visit}
    {out : Option (List Place)} : FileTrail d visited path trail out → Once visited trail out
  | .missing _ | .unreadable _ _ _ => ⟨.nil, nofun, nofun⟩
  | .again _ _ _ => ⟨.nil, nofun, by rintro _ ⟨⟩; rfl⟩
  | .reads _ _ hv h => h.once.reads hv _

theorem IncludesTrail.once {folder : Path} {visited : List Place} {files : List String}
    {trail : List Visit} {out : Option (List Place)} :
    IncludesTrail d folder visited files trail out → Once visited trail out
  | .done => ⟨.nil, nofun, by rintro _ ⟨⟩; rfl⟩
  | .fails hf => hf.once
  | .next hf h => hf.once.append h.once

end

mutual

theorem FileTrail.unread {n : Nat} {visited after : List Place} {path : Path}
    {trail : List Visit} {out : Option (List Place)} :
    FileTrail d visited path trail out → out = some after → Unread d n visited → Unread d n after
  | .again _ _ _, he, hu => by
    cases he
    exact hu
  | .reads _ hn hv h, he, hu => h.unread he (hu.weaken.visit hn hv)

theorem IncludesTrail.unread {n : Nat} {folder : Path} {visited after : List Place}
    {files : List String} {trail : List Visit} {out : Option (List Place)} :
    IncludesTrail d folder visited files trail out → out = some after → Unread d n visited →
      Unread d n after
  | .done, he, hu => by
    cases he
    exact hu
  | .next hf h, he, hu => h.unread he (hf.unread rfl hu)

end

def repeats (problems : List Problem) : List String :=
  problems.filterMap fun
    | .alreadyRead path => some path
    | _ => none

/-- What reading comes to, seen from a trail: an error is the first one in it, and without an error
the loader has gone along it. -/
inductive Comes (l : Loader) (trail : List Visit) :
    Except LoadError Loader → Option (List Place) → Prop
  | ok {l' : Loader} (he : trail.findSome? Visit.error? = none)
    (hr : repeats l'.problems = repeats l.problems ++ trail.filterMap Visit.repeated?) :
    Comes l trail (.ok l') (some l'.visited)
  | error {e : LoadError} (he : trail.findSome? Visit.error? = some e) :
    Comes l trail (.error e) none

def places (trail : List Visit) : List Place := trail.filterMap Visit.place?

/-- A file reader under which each path that is asked for comes to its trail, while the disk has
files left. A recording writes down the texts along the trail. -/
def Walks (d : Disk) (unread : Nat) (read : Loader → Path → Except LoadError Loader)
    (record : Loader → Path → Recording Loader) : Prop :=
  ∀ l path, Unread d unread l.visited → ∃ trail out, FileTrail d l.visited path trail out ∧
    Comes l trail (read l path) out ∧ Records (read l path) (record l path) (places trail)

structure SameFiles (l l' : Loader) : Prop where
  visited : l'.visited = l.visited
  told : repeats l'.problems = repeats l.problems

section

variable {l l' k : Loader} {r r' : Reading} {trail rest : List Visit} {folder : Path}
  {result : Except LoadError Loader} {out : Option (List Place)} {text : String}

namespace SameFiles

theorem refl (l : Loader) : SameFiles l l := ⟨rfl, rfl⟩

theorem trans (h : SameFiles l l') (h' : SameFiles l' k) : SameFiles l k :=
  ⟨h'.visited.trans h.visited, h'.told.trans h.told⟩

theorem report {p : Problem} (hp : repeats [p] = []) (l : Loader) : SameFiles l (l.report p) := by
  refine ⟨rfl, ?_⟩
  unfold Loader.report repeats
  rw [List.filterMap_append]
  exact (congrArg _ hp).trans (List.append_nil _)

theorem define (c : Scene) (l : Loader) : SameFiles l (l.define c) := by
  unfold Loader.define
  split
  · exact ⟨rfl, (report (p := .redefinedScene c.name) rfl l).told⟩
  · exact ⟨rfl, rfl⟩

theorem close (r : Reading) (folder : Path) : SameFiles r.loader (r.close folder).loader := by
  change SameFiles r.loader (closeBlock r.loader r.file folder).1
  unfold closeBlock
  split
  · exact refl _
  · dsimp only
    split
    · exact report rfl _
    · exact define _ _

theorem keep (r : Reading) (line : String) : SameFiles r.loader (r.keep line).loader := by
  unfold Reading.keep
  split <;> exact ⟨rfl, rfl⟩

end SameFiles

namespace Comes

theorem same (h : SameFiles l k) (hc : Comes k trail result out) : Comes l trail result out := by
  cases hc with
  | ok he hr => exact .ok he (by rw [hr, h.told])
  | error he => exact .error he

theorem map_same (hc : Comes l trail (.ok k) out) (h : SameFiles k l') :
    Comes l trail (.ok l') out := by
  cases hc with
  | ok he hr =>
    rw [← h.visited]
    exact .ok he (by rw [h.told, hr])

theorem append (he : trail.findSome? Visit.error? = none)
    (hr : repeats k.problems = repeats l.problems ++ trail.filterMap Visit.repeated?)
    (hc : Comes k rest result out) : Comes l (trail ++ rest) result out := by
  have herror : (trail ++ rest).findSome? Visit.error? = rest.findSome? Visit.error? := by
    rw [List.findSome?_append, he, Option.none_or]
  cases hc with
  | ok he' hr' =>
    refine .ok (herror.trans he') ?_
    rw [hr', hr, List.filterMap_append, List.append_assoc]
  | error he' => exact .error (herror.trans he')

end Comes

variable {read : Loader → Path → Except LoadError Loader}
  {record : Loader → Path → Recording Loader} {unread : Nat} {m : Type → Type} [Monad m]
  [LawfulMonad m] {readBy : Loader → Path → m Loader} {number : Nat} {source : String}

theorem done_keep : (r.keep text).done = r.done := by
  unfold Reading.keep
  split <;> rfl

omit [LawfulMonad m] in
theorem obey_eq_pure (hfile : ∀ file, Directive.ofLine (stripAnd text) ≠ .include (some file))
    (h : Id.run (r.obey (fun l _ => l) folder source number text) = r') :
    r.obey readBy folder source number text = pure r' := by
  subst h
  unfold Reading.obey
  dsimp only
  split
  case h_2 => split <;> rfl
  case h_7 file heq => exact absurd heq (hfile file)
  all_goals rfl

theorem obey_plain (folder : Path) (source : String) (number : Nat) (r : Reading)
    (hend : Directive.ofLine (stripAnd text) ≠ .endFile)
    (hfile : ∀ file, Directive.ofLine (stripAnd text) ≠ .include (some file)) :
    (Mark.of? (stripAnd text) (Directive.ofLine (stripAnd text))).toList.filterMap Mark.file? = [] ∧
      ∃ r', Id.run (r.obey (fun l _ => l) folder source number text) = r' ∧ r'.done = r.done ∧
        r'.file.inComment = r.file.inComment ∧ SameFiles r.loader r'.loader := by
  have hclose := SameFiles.close r folder
  unfold Reading.obey
  dsimp only
  split
  · next heq =>
    rw [heq]
    exact ⟨rfl, _, rfl, rfl, rfl, .report rfl _⟩
  · next name heq =>
    rw [heq]
    by_cases hmain : name = topLevel
    · subst hmain
      have hreport := SameFiles.report (p := .badLine source number .reservedSceneName) rfl
        (r.close folder).loader
      exact ⟨rfl, _, rfl, rfl, inComment_close, hclose.trans hreport⟩
    · have hreserved : (name == topLevel) = false := beq_false_of_ne hmain
      rw [Mark.of?, hreserved]
      exact ⟨rfl, _, rfl, rfl, inComment_close, hclose⟩
  · next heq =>
    rw [heq]
    exact ⟨rfl, _, rfl, rfl, inComment_close, hclose⟩
  · next heq => exact absurd heq hend
  · next heq =>
    rw [heq]
    exact ⟨rfl, _, rfl, rfl, rfl, .report rfl _⟩
  · next heq =>
    rw [heq]
    exact ⟨rfl, _, rfl, rfl, rfl, .report rfl _⟩
  · next file heq => exact absurd heq (hfile file)
  · next heq =>
    rw [heq]
    exact ⟨rfl, _, rfl, done_keep, inComment_keep, .keep r _⟩

theorem obey_include {file : String}
    (hf : Directive.ofLine (stripAnd text) = .include (some file)) :
    r.obey readBy folder source number text =
      (fun l => { r with loader := l }) <$> readBy r.loader (folder.join ⟨file⟩) := by
  unfold Reading.obey
  dsimp only
  rw [hf, map_eq_pure_bind]

theorem comes_close (r : Reading) (folder : Path) :
    Comes r.loader [] (.ok (r.close folder).loader) (some r.loader.visited) :=
  .map_same (.ok rfl (List.append_nil _).symm) (.close r folder)

theorem comes_lines (hread : Walks d unread read record) (folder : Path) (source : String)
    (lines : List (String × Nat)) {r : Reading} (hdone : r.done = false)
    (hu : Unread d unread r.loader.visited) :
    ∃ trail out, IncludesTrail d folder r.loader.visited
        ((marksFrom r.file.inComment (lines.map (·.1))).filterMap Mark.file?) trail out ∧
      Comes r.loader trail ((lines.foldlM (Reading.step read folder source) r).map
        fun r => (r.close folder).loader) out ∧
      Records (lines.foldlM (Reading.step read folder source) r)
        (lines.foldlM (Reading.step record folder source) r) (places trail) := by
  induction lines generalizing r with
  | nil => exact ⟨[], _, .done, comes_close r folder, .pure r⟩
  | cons line lines ih =>
    have hstep {m : Type → Type} [Monad m] (readBy : Loader → Path → m Loader) :
        r.step readBy folder source line = _ := if_neg (by rw [hdone]; nofun)
    rw [List.map_cons, List.foldlM_cons, List.foldlM_cons, hstep, hstep]
    dsimp only
    cases hs : screen r.file.inComment (Text.trim line.1) with
    | skip =>
      rw [marksFrom, hs]
      exact ih hdone hu
    | comment stillOpen =>
      rw [marksFrom, hs]
      exact ih (r := { r with file.inComment := stillOpen }) hdone hu
    | text =>
      dsimp only
      by_cases hend : Directive.ofLine (stripAnd (Text.trim line.1)) = .endFile
      · rw [marksFrom, hs]
        dsimp only
        rw [if_pos hend, obey_endFile hend, obey_endFile hend, pure_bind, pure_bind,
          foldlM_step_done rfl, foldlM_step_done rfl]
        exact ⟨[], _, .done, comes_close r folder, .pure _⟩
      · rw [marksFrom_text hs hend, List.filterMap_append]
        by_cases hfile : ∃ file, Directive.ofLine (stripAnd (Text.trim line.1)) =
            .include (some file)
        · obtain ⟨file, hfile⟩ := hfile
          obtain ⟨trail, out, hf, hc, hrecord⟩ := hread r.loader (folder.join ⟨file⟩) hu
          rw [obey_include hfile, obey_include hfile, bind_map_left, bind_map_left, hfile]
          generalize read r.loader (folder.join ⟨file⟩) = result at hc hrecord ⊢
          cases hc with
          | error he => exact ⟨trail, none, .fails hf, .error he, hrecord.bind_error⟩
          | @ok l' he hr =>
            obtain ⟨rest, out, h, hc, hrest⟩ :=
              ih (r := { r with loader := l' }) hdone (hf.unread rfl hu)
            refine ⟨trail ++ rest, out, .next hf h, .append he hr hc, ?_⟩
            rw [places, List.filterMap_append]
            exact hrecord.bind hrest
        · obtain ⟨hnone, r', hr', hdone', hcomment, hsame⟩ :=
            obey_plain folder source (line.2 + 1) r hend (not_exists.mp hfile)
          obtain ⟨trail, out, h, hc, hrecord⟩ := ih (hdone'.trans hdone) (by rwa [hsame.visited])
          rw [hnone, List.nil_append, obey_eq_pure (not_exists.mp hfile) hr',
            obey_eq_pure (not_exists.mp hfile) hr', pure_bind, pure_bind, ← hcomment,
            ← hsame.visited]
          exact ⟨trail, out, h, hc.same hsame, hrecord⟩

theorem comes_readText (hread : Walks d unread read record) (folder : Path) (source text : String)
    (hu : Unread d unread l.visited) :
    ∃ trail out, IncludesTrail d folder l.visited (includes text) trail out ∧
      Comes l trail (readText read folder source text l) out ∧
      Records (readText read folder source text l) (readText record folder source text l)
        (places trail) := by
  obtain ⟨trail, out, h, hc, hrecord⟩ := comes_lines (r := ⟨l, ⟨none, [], false⟩, false⟩) hread
    folder source (Text.lines text).zipIdx rfl hu
  rw [List.zipIdx_map_fst] at h
  exact ⟨trail, out, h, hc, hrecord.map _⟩

theorem walks_of_texts (h : ∀ l path place text, d.resolve? path = some place →
    d.node? place = some (.file (some text)) → place ∉ l.visited → Unread d unread l.visited →
    ∃ trail out, FileTrail d l.visited path trail out ∧
      Comes l trail (readFile d unread l path) out ∧
      Records (readFile d unread l path) (recordFile d unread l path) (places trail)) :
    Walks d unread (readFile d unread) (recordFile d unread) := by
  intro l path hu
  by_cases hf : ∃ text?, d.find? path = some (.file text?)
  · obtain ⟨text?, hf⟩ := hf
    obtain ⟨place, hp, hn⟩ := Option.bind_eq_some_iff.mp hf
    by_cases hv : place ∈ l.visited
    · have hrecord : Records (readFile d unread l path) (recordFile d unread l path) [] :=
        records_again hp hn hv
      have hc : Comes l [.again path] (.ok (l.report (.alreadyRead path.text)))
          (some (l.report (.alreadyRead path.text)).visited) :=
        .ok rfl (List.filterMap_append ..)
      refine ⟨_, _, .again hp hn hv, ?_, hrecord⟩
      rw [readFile_again hp hn hv]
      exact hc
    · cases text? with
      | none =>
        refine ⟨_, _, .unreadable hp hn hv, ?_, records_unreadable hp hn hv⟩
        rw [readFile_unreadable hp hn hv]
        exact .error rfl
      | some text => exact h l path place text hp hn hv hu
  · refine ⟨_, _, .missing (not_exists.mp hf), ?_, records_missing (not_exists.mp hf)⟩
    rw [readFile_missing (not_exists.mp hf)]
    exact .error rfl

/-- The files that may still be read are enough: each path comes to its whole trail. -/
theorem walks_readFile (d : Disk) (unread : Nat) :
    Walks d unread (readFile d unread) (recordFile d unread) := by
  induction unread with
  | zero =>
    -- every file with a text was read
    refine walks_of_texts fun l path place text _ hn hv hu => ?_
    obtain ⟨n, hz⟩ := hu.exists_succ hn hv
    cases hz
  | succ unread ih =>
    refine walks_of_texts fun l path place text hp hn hv hu => ?_
    obtain ⟨trail, out, h, hc, hrecord⟩ := comes_readText
      (l := { l with visited := place :: l.visited }) ih path.parent path.text text
      (hu.visit hn hv)
    refine ⟨_, _, .reads hp hn hv h, ?_, records_reads hp hn hv hrecord⟩
    rw [readFile_reads hp hn hv]
    generalize readText (readFile d unread) path.parent path.text text _ = result at hc ⊢
    cases hc with
    | ok he hr => exact .ok he hr
    | error he => exact .error he

end

def Root.HasTrail (d : Disk) (trail : List Visit) : Root → Prop
  | .file path => ∃ out, FileTrail d [] path trail out
  | .inMemory text folder => ∃ out, IncludesTrail d folder [] (includes text) trail out

def Root.record (d : Disk) : Root → Recording Script
  | .file path => Loader.finish <$> recordFile d d.nodes.length (.start path.parent) path
  | .inMemory text folder => Loader.finish <$>
    readText (recordFile d d.nodes.length) folder "<script>" text (.start folder)

theorem repeats_finish (l : Loader) : repeats l.finish.problems = repeats l.problems := by
  unfold Loader.finish
  split
  · exact (SameFiles.report (p := .noTopLevel) rfl l).told
  · rfl

theorem Root.comes (d : Disk) (root : Root) :
    ∃ trail out result l, root.HasTrail d trail ∧
      (∀ trail', root.HasTrail d trail' → trail' = trail) ∧ Once [] trail out ∧
      l.problems = [] ∧ Comes l trail result out ∧ root.load d = result.map Loader.finish ∧
      Records (root.load d) (root.record d) (places trail) := by
  cases root with
  | file path =>
    obtain ⟨trail, out, h, hc, hrecord⟩ :=
      walks_readFile d d.nodes.length (.start path.parent) path .start
    exact ⟨trail, out, _, _, ⟨out, h⟩, fun _ ⟨_, h'⟩ => (h'.unique h).1, h.once, rfl, hc, rfl,
      hrecord.map _⟩
  | inMemory text folder =>
    obtain ⟨trail, out, h, hc, hrecord⟩ := comes_readText (l := .start folder)
      (walks_readFile d d.nodes.length) folder "<script>" text .start
    exact ⟨trail, out, _, _, ⟨out, h⟩, fun _ ⟨_, h'⟩ => (h'.unique h).1, h.once, rfl, hc, rfl,
      hrecord.map _⟩

/-- The loading of a script comes to an end on every disk, however the files include each other: by
rules that know no bound, there is one trail of what it asks for. A load that writes down the texts
it reads comes to the same, and reads those along the trail, none of them twice. The load ends with
the first error in the trail, or else with a script, which tells of each file that was not read
again. To ask for such a file adds this problem, and does nothing else. -/
theorem Root.load_trail (d : Disk) (root : Root) :
    (∃ trail, root.HasTrail d trail ∧ (∀ trail', root.HasTrail d trail' → trail' = trail) ∧
      (root.record d).run.run [] = (root.load d, trail.filterMap Visit.place?) ∧
      (trail.filterMap Visit.place?).Nodup ∧
      (∀ e, trail.findSome? Visit.error? = some e → root.load d = .error e) ∧
      (trail.findSome? Visit.error? = none → ∃ script, root.load d = .ok script ∧
        repeats script.problems = trail.filterMap Visit.repeated?)) ∧
    ∀ (unread : Nat) (l : Loader) (path : Path) (place : Place) (text? : Option String),
      d.resolve? path = some place → d.node? place = some (.file text?) → place ∈ l.visited →
        readFile d unread l path = .ok (l.report (.alreadyRead path.text)) := by
  refine ⟨?_, fun _ _ _ _ _ hp hn hv => readFile_again hp hn hv⟩
  obtain ⟨trail, out, result, l, htrail, hunique, honce, hl, hc, hload, hrecord⟩ := root.comes d
  refine ⟨trail, htrail, hunique, hrecord [], honce.nodup, ?_⟩
  rw [hload]
  cases hc with
  | @ok l' he hr =>
    refine ⟨fun e hfirst => ?_, fun _ => ⟨l'.finish, rfl, ?_⟩⟩
    · cases he.symm.trans hfirst
    · rw [repeats_finish, hr, hl]
      rfl
  | error he =>
    refine ⟨fun e hfirst => ?_, fun hnone => ?_⟩
    · cases he.symm.trans hfirst
      rfl
    · cases he.symm.trans hnone

def cyclicDisk : Disk :=
  (Disk.bare.add ⟨"one"⟩ (.file (some "include two\necho one"))).add ⟨"two"⟩
    (.file (some "include one\necho two"))

/-- The first file is asked for again by the second, and not read again. -/
theorem load_trail_cyclicDisk : ∃ script trail,
    (Root.file ⟨"one"⟩).load cyclicDisk = .ok script ∧
    script.scenes.map (·.content) = [["echo two", "echo one"]] ∧
    (Root.file ⟨"one"⟩).HasTrail cyclicDisk trail ∧
    trail.filterMap Visit.repeated? = ["one"] := by
  have hload : ((Root.file ⟨"one"⟩).load cyclicDisk).toOption.map
      (fun script => (script.scenes.map (·.content), repeats script.problems)) =
        some ([["echo two", "echo one"]], ["one"]) := by
    decide +kernel
  obtain ⟨⟨trail, htrail, -, -, -, hfails, hloads⟩, -⟩ := Root.load_trail cyclicDisk (.file ⟨"one"⟩)
  cases herror : trail.findSome? Visit.error? with
  | some e =>
    rw [hfails e herror] at hload
    cases hload
  | none =>
    obtain ⟨script, hscript, hrepeats⟩ := hloads herror
    rw [hscript] at hload
    obtain ⟨hscenes, htold⟩ := Prod.mk.inj (Option.some.inj hload)
    exact ⟨script, trail, hscript, hscenes, htrail, hrepeats.symm.trans htold⟩

end Showrunner.Script
