import DevcontainerBridge.Cli.Saving
import DevcontainerBridge.Control.Clipboard
import DevcontainerBridge.Text.Rows

/-! The paste command: the images of a transfer are saved, and their paths are
typed into a tmux pane that was looked at before. As for saving alone, nobody
else writes to the output directory meanwhile. -/
namespace DevcontainerBridge

open Files Shell Stream

/-- What a paste can fail with. -/
inductive PasteFailure where
  | receive (error : PasteError)
  | timeout
  | save (error : SaveError)
  | tmux (reason : String)
  /-- the images are saved, but typing their paths failed -/
  | tmuxPaste (directory : List UInt8) (reason : String)
  deriving DecidableEq, Repr

/-- What tmux, the host and the system do while a paste runs. -/
structure PasteRun where
  /-- the environment variable `TMUX` has a value that is not empty -/
  insideTmux : Bool
  /-- the answer of `tmux display-message` for a pane -/
  displayMessage : String → Except String String
  /-- the answer of `tmux send-keys` -/
  sendKeys : Except String Unit
  currentDir : Option {dir : List UInt8 // isAbsolute dir = true}
  /-- the images that are received, unless the transfer takes too long -/
  transfer : Option (Except PasteError (List (ClipboardFormat × List UInt8)))
  saving : SaveRun

structure PasteOutcome where
  fs : FileSystem
  /-- the host was asked for its clipboard -/
  asked : Bool
  /-- what `tmux send-keys` was told to type, and into which pane -/
  typed : Option (String × List Char)
  result : Except PasteFailure SavedImages

/-- The pane IDs of tmux. -/
def isPaneId (target : String) : Bool :=
  "%".toList.isPrefixOf target.toList && target.utf8ByteSize ≥ 2 && (target.toList.drop 1).all Char.isDigit

def PasteRun.validateTmux (run : PasteRun) (target : String) : Except PasteFailure Unit :=
  if isPaneId target = false then .error (.tmux "use an exact pane ID such as %1")
  else if run.insideTmux = false then .error (.tmux "TMUX must identify the destination server")
  else
    match run.displayMessage target with
    | .error reason => .error (.tmux reason)
    | .ok pane =>
        if String.ofList (Text.trim isWhitespace pane.toList) ≠ target then .error (.tmux "target pane did not match")
        else .ok ()

/-- The end of `paste`, once the images are saved. -/
def PasteRun.insert (run : PasteRun) (fs : FileSystem) (saved : SavedImages) : Option String → PasteOutcome
  | none => { fs, asked := true, typed := none, result := .ok saved }
  | some target =>
      match quotePaths saved.paths with
      | .error e => { fs, asked := true, typed := none, result := .error (.save e) }
      | .ok quoted =>
          { fs
            asked := true
            typed := some (target, quoted)
            result :=
              match run.sendKeys with
              | .error reason => .error (.tmuxPaste saved.directory reason)
              | .ok _ => .ok saved }

/-- `paste` into a directory, and into a pane where one is given. -/
def PasteRun.paste (run : PasteRun) (fs : FileSystem) (outputDir : List UInt8) (target : Option String) :
    PasteOutcome :=
  match target.elim (.ok ()) run.validateTmux with
  | .error e => { fs, asked := false, typed := none, result := .error e }
  | .ok _ =>
      match absoluteOutputDir run.currentDir outputDir with
      | .error e => { fs, asked := false, typed := none, result := .error (.save e) }
      | .ok dir =>
          match run.transfer with
          | none => { fs, asked := true, typed := none, result := .error .timeout }
          | some (.error e) => { fs, asked := true, typed := none, result := .error (.receive e) }
          | some (.ok images) =>
              match run.saving.saveImages fs dir images with
              | (fs, .error e) => { fs, asked := true, typed := none, result := .error (.save e) }
              | (fs, .ok saved) => run.insert fs saved target

/-- A path that can be quoted. -/
def Quotable (path : List UInt8) : Prop :=
  ∃ text : String, path = utf8 text ∧ ∀ c ∈ text.toList, isControl c = false

variable {path name : List UInt8}

theorem quotable_iff : Quotable path ↔ ∃ quoted, quotePath path = .ok quoted := by
  constructor
  · rintro ⟨text, rfl, hText⟩
    exact ⟨_, quotePath_utf8 hText⟩
  · rintro ⟨quoted, h⟩
    unfold quotePath at h
    split at h
    case h_1 => cases h
    case h_2 text hText =>
      split_ifs at h with hControl
      refine ⟨text, (fromUtf8_eq_some_iff.mp hText).symm, fun c hMem => ?_⟩
      by_contra hIs
      exact hControl (List.any_eq_true.mpr ⟨c, hMem, by simpa using hIs⟩)

theorem Quotable.append (hPath : Quotable path) (hName : Quotable name) : Quotable (path ++ name) := by
  obtain ⟨front, rfl, hFront⟩ := hPath
  obtain ⟨back, rfl, hBack⟩ := hName
  refine ⟨front ++ back, (utf8_append front back).symm, fun c hMem => ?_⟩
  rw [String.toList_append] at hMem
  exact (List.mem_append.mp hMem).elim (hFront c) (hBack c)

theorem quotable_utf8 {text : String} (h : ∀ c ∈ text.toList, isControl c = false) : Quotable (utf8 text) :=
  ⟨text, rfl, h⟩

theorem quotable_text (text : String) (h : (text.toList.all fun c => !isControl c) = true) : Quotable (utf8 text) := by
  refine quotable_utf8 fun c hMem => ?_
  simpa using List.all_eq_true.mp h c hMem

theorem Quotable.join (hPath : Quotable path) (hName : Quotable name) : Quotable (Files.join path name) := by
  unfold Files.join
  split_ifs
  · exact hName
  · exact hPath.append hName
  · have hSlash : Quotable [slash] := quotable_text "/" rfl
    exact hPath.append (hSlash.append hName)

/-- Letters and digits are printable ASCII characters. -/
theorem printable_of_isAlphanum {c : Char} (h : c.isAlphanum = true) : 0x20 ≤ c.toNat ∧ c.toNat < 0x7F := by
  delta Char.isAlphanum Char.isAlpha Char.isUpper Char.isLower Char.isDigit at h
  simp only [Bool.or_eq_true, Bool.and_eq_true, decide_eq_true_eq, ge_iff_le, UInt32.le_iff_toNat_le] at h
  simp at h
  omega

theorem isControl_of_isAlphanum {c : Char} (h : c.isAlphanum = true) : isControl c = false := by
  have hRange := printable_of_isAlphanum h
  simp only [isControl, Bool.or_eq_false_iff, Bool.and_eq_false_iff, decide_eq_false_iff_not]
  omega

/-- A temporary name has letters and digits only. -/
theorem quotable_suffix (suffix : TempSuffix) : Quotable suffix.bytes := by
  have hChars : ∀ c ∈ suffix.bytes.map fun b => Char.ofNat b.toNat, c.isAlphanum = true := by
    intro c hMem
    obtain ⟨b, hByte, rfl⟩ := List.mem_map.mp hMem
    exact suffix.alphanumeric b hByte
  have hSame : utf8 (String.ofList (suffix.bytes.map fun b => Char.ofNat b.toNat)) = suffix.bytes := by
    rw [utf8_ofList_ascii fun c hMem => (printable_of_isAlphanum (hChars c hMem)).2.trans (by decide), List.map_map]
    calc
      suffix.bytes.map _ = suffix.bytes.map id := List.map_congr_left fun b hByte => by
        have hByteLt := b.toNat_lt
        have hValid : b.toNat.isValidChar := .inl (by omega)
        have hCode : (Char.ofNat b.toNat).toNat = b.toNat := by
          rw [Char.ofNat, dif_pos hValid]
          rfl
        show UInt8.ofNat (Char.ofNat b.toNat).toNat = b
        rw [hCode, UInt8.ofNat_toNat]
      _ = suffix.bytes := List.map_id _
  rw [← hSame]
  apply quotable_utf8
  intro c hMem
  rw [String.toList_ofList] at hMem
  exact isControl_of_isAlphanum (hChars c hMem)

theorem quotable_filename {format : ClipboardFormat} {ext : String} (h : SaveRun.extension format = .ok ext)
    (count index : Nat) : Quotable (SaveRun.filename count index ext) := by
  have hExt : Quotable (utf8 ext) := by
    cases format <;> cases h
    · exact quotable_text _ rfl
    · exact quotable_text _ rfl
  have hDigits : Quotable (utf8 (toString (index + 1))) := by
    apply quotable_utf8
    intro c hMem
    rw [Nat.toString_eq_ofList_toDigits, String.toList_ofList] at hMem
    have hDigit := Nat.isDigit_of_mem_toDigits (by decide) (by decide) hMem
    exact isControl_of_isAlphanum (by simp [Char.isAlphanum, hDigit])
  unfold SaveRun.filename
  split
  · exact (quotable_text _ rfl).append hExt
  · exact (((quotable_text _ rfl).append hDigits).append (quotable_text _ rfl)).append hExt

namespace SaveRun

variable {run : SaveRun} {fs after : FileSystem} {dir : List UInt8}

theorem quotable_tempdirIn {attempt : Nat} {suffixes : List TempSuffix} (hDir : Quotable dir)
    (h : run.tempdirIn fs dir attempt suffixes = .ok (after, path)) : Quotable path := by
  induction suffixes generalizing attempt with
  | nil => cases h
  | cons suffix suffixes ih =>
      unfold tempdirIn at h
      dsimp only at h
      split at h
      case isTrue => cases h
      case isFalse =>
        split at h
        case h_1 =>
          cases h
          exact hDir.join ((quotable_text _ rfl).append (quotable_suffix suffix))
        case h_2 => exact ih h
        case h_3 => cases h

theorem quotable_saveImage {count index : Nat} {image : ClipboardFormat × List UInt8} (hDir : Quotable dir)
    (h : run.saveImage fs dir count index image = (after, .ok path)) : Quotable path := by
  unfold saveImage at h
  split at h
  case h_1 => cases h
  case h_2 ext hExt =>
    have hPath : path = join dir (filename count index ext) := by
      dsimp only at h
      split at h
      case isTrue => cases h
      case isFalse =>
        split at h
        case h_1 => cases h
        case h_2 =>
          split at h
          case isTrue => cases h
          case isFalse =>
            split at h
            case isTrue => cases h
            case isFalse =>
              cases h
              rfl
    rw [hPath]
    exact hDir.join (quotable_filename hExt count index)

theorem quotable_saveAll {count index : Nat} {images : List (ClipboardFormat × List UInt8)}
    {paths : List (List UInt8)} (hDir : Quotable dir)
    (h : run.saveAll dir count fs index images = (after, .ok paths)) : ∀ path ∈ paths, Quotable path := by
  induction images generalizing fs index paths with
  | nil =>
      cases h
      exact fun _ hMem => (nomatch hMem)
  | cons image images ih =>
      unfold saveAll at h
      split at h
      case h_1 => cases h
      case h_2 middle path hImage =>
        split at h
        case h_1 => cases h
        case h_2 final others hOthers =>
          cases h
          exact List.forall_mem_cons.mpr ⟨quotable_saveImage hDir hImage, ih hOthers⟩

/-- The paths of saved images can be quoted. -/
theorem quotable_saveImages {dir : OutputDir} {images : List (ClipboardFormat × List UInt8)} {saved : SavedImages}
    (hDir : Quotable dir.path) (h : run.saveImages fs dir images = (after, .ok saved)) :
    ∀ path ∈ saved.paths, Quotable path := by
  unfold saveImages at h
  split at h
  case h_1 => cases h
  case h_2 =>
    split at h
    case h_1 => cases h
    case h_2 made transferDir hTemp =>
      split at h
      case h_1 => cases h
      case h_2 final paths hStored =>
        cases h
        exact quotable_saveAll (quotable_tempdirIn hDir hTemp) hStored

end SaveRun

/-- What is typed for paths that can be quoted. -/
theorem quotePaths_quotable {paths : List (List UInt8)} (h : ∀ path ∈ paths, Quotable path) :
    ∃ (texts : List String) (typed : List Char), paths = texts.map utf8 ∧ quotePaths paths = .ok typed ∧
      splitWords typed = some (texts.map fun text => literal text.toList) ∧ ∀ c ∈ typed, isControl c = false := by
  obtain ⟨texts, rfl, hTexts⟩ : ∃ texts : List String, paths = texts.map utf8 ∧
      ∀ text ∈ texts, ∀ c ∈ text.toList, isControl c = false := by
    induction paths with
    | nil => exact ⟨[], rfl, fun _ hMem => (nomatch hMem)⟩
    | cons path paths ih =>
        obtain ⟨text, rfl, hText⟩ := h path List.mem_cons_self
        obtain ⟨texts, rfl, hTexts⟩ := ih fun other hOther => h other (List.mem_cons_of_mem _ hOther)
        exact ⟨text :: texts, rfl, List.forall_mem_cons.mpr ⟨hText, hTexts⟩⟩
  refine ⟨texts, _, rfl, quotePaths_utf8 hTexts, ?_, ?_⟩
  · rw [splitWords_quotes, List.map_map]
    rfl
  · intro c hMem
    simp only [List.mem_flatMap, List.mem_map, List.mem_append, List.mem_singleton] at hMem
    obtain ⟨-, ⟨text, hText, rfl⟩, hQuoted | rfl⟩ := hMem
    · rcases mem_quote hQuoted with hChar | rfl | rfl
      · exact hTexts text hText c hChar
      · decide
      · decide
    · decide

namespace PasteRun

variable {run : PasteRun} {fs : FileSystem} {outputDir : List UInt8} {target : Option String}

/-- The images of the run are saved in a fresh directory. -/
def SavedAs (run : PasteRun) (before after : FileSystem) (outputDir : List UInt8) (saved : SavedImages) : Prop :=
  ∃ dir images, absoluteOutputDir run.currentDir outputDir = .ok dir ∧ run.transfer = some (.ok images) ∧
    run.saving.Transferred before after (route dir.path) images saved

/-- How a paste ends. -/
inductive Ended (run : PasteRun) (before : FileSystem) (outputDir : List UInt8) :
    Option String → PasteOutcome → Prop where
  /-- the pane or the directory is refused before the host is asked -/
  | refused {target : Option String} {e : PasteFailure} (hKind : ∀ directory reason, e ≠ .tmuxPaste directory reason) :
      Ended run before outputDir target { fs := before, asked := false, typed := none, result := .error e }
  | failed {target : Option String} {dir : OutputDir} {after : FileSystem} {e : PasteFailure}
      (hTarget : ∀ pane, target = some pane → run.validateTmux pane = .ok ())
      (hDir : absoluteOutputDir run.currentDir outputDir = .ok dir)
      (hOnly : run.saving.OnlyComponents before after (route dir.path))
      (hKind : ∀ directory reason, e ≠ .tmuxPaste directory reason) :
      Ended run before outputDir target { fs := after, asked := true, typed := none, result := .error e }
  | saved {after : FileSystem} {saved : SavedImages} (hSaved : run.SavedAs before after outputDir saved) :
      Ended run before outputDir none { fs := after, asked := true, typed := none, result := .ok saved }
  | typed {after : FileSystem} {saved : SavedImages} {pane : String} {texts : List String} {typed : List Char}
      {result : Except PasteFailure SavedImages} (hPane : run.validateTmux pane = .ok ())
      (hSaved : run.SavedAs before after outputDir saved) (hPaths : saved.paths = texts.map utf8)
      (hWords : splitWords typed = some (texts.map fun text => literal text.toList))
      (hPlain : ∀ c ∈ typed, isControl c = false)
      (hResult : result = .ok saved ∨ ∃ reason, result = .error (.tmuxPaste saved.directory reason)) :
      Ended run before outputDir (some pane)
        { fs := after, asked := true, typed := some (pane, typed), result := result }

theorem validateTmux_error {pane : String} {e : PasteFailure} (h : run.validateTmux pane = .error e) :
    ∀ directory reason, e ≠ .tmuxPaste directory reason := by
  rintro directory reason rfl
  unfold validateTmux at h
  split_ifs at h
  · cases h
  · cases h
  · split at h
    case h_1 => cases h
    case h_2 =>
      split_ifs at h
      cases h

/-- Saved images are typed as words of the shell, whatever their directory is
called: quoting never fails behind a transfer. -/
theorem insert_ended {after : FileSystem} {saved : SavedImages}
    (hTarget : ∀ pane, target = some pane → run.validateTmux pane = .ok ())
    (hSaved : run.SavedAs fs after outputDir saved) (hQuotable : ∀ path ∈ saved.paths, Quotable path) :
    run.Ended fs outputDir target (run.insert after saved target) := by
  cases target with
  | none => exact .saved hSaved
  | some pane =>
      obtain ⟨texts, typed, hPaths, hQuoted, hWords, hPlain⟩ := quotePaths_quotable hQuotable
      unfold insert
      rw [hQuoted]
      refine .typed (hTarget pane rfl) hSaved hPaths hWords hPlain ?_
      cases run.sendKeys with
      | ok _ => exact .inl rfl
      | error reason => exact .inr ⟨reason, rfl⟩

theorem paste_cases (run : PasteRun) (fs : FileSystem) (outputDir : List UInt8) (target : Option String) :
    run.Ended fs outputDir target (run.paste fs outputDir target) := by
  unfold paste
  split
  case h_1 e hTmux =>
    refine .refused ?_
    cases target with
    | none => cases hTmux
    | some pane => exact validateTmux_error hTmux
  case h_2 hTmux =>
    have hTarget : ∀ pane, target = some pane → run.validateTmux pane = .ok () := by
      rintro pane rfl
      exact hTmux
    split
    case h_1 e hDir => exact .refused nofun
    case h_2 dir hDir =>
      split
      case h_1 => exact .failed hTarget hDir (SaveRun.onlyComponents_self fs _) nofun
      case h_2 => exact .failed hTarget hDir (SaveRun.onlyComponents_self fs _) nofun
      case h_3 images hTransfer =>
        have hQuotable : Quotable dir.path := quotable_iff.mpr (absoluteOutputDir_eq_ok hDir).1
        rcases run.saving.saveImages_cases fs dir images with ⟨after, e, hEnd, hOnly⟩ | ⟨after, saved, hEnd, hThere⟩
        · rw [hEnd]
          exact .failed hTarget hDir hOnly nofun
        · rw [hEnd]
          exact insert_ended hTarget ⟨dir, images, hDir, hTransfer, hThere⟩
            (SaveRun.quotable_saveImages hQuotable hEnd)

/-- What is typed goes into the pane that was looked at before the host was
asked, is read by the shell as the paths of the saved images and holds no
control character; a paste that succeeds has saved its images and typed their
paths if it was to; where tmux fails the images stay, and their directory is
named; and after any other error nothing is typed and no image is left. -/
theorem paste_safe (run : PasteRun) (fs : FileSystem) (outputDir : List UInt8) (target : Option String) :
    (∀ pane text, (run.paste fs outputDir target).typed = some (pane, text) →
      target = some pane ∧ run.validateTmux pane = .ok () ∧ ∃ saved texts,
        run.SavedAs fs (run.paste fs outputDir target).fs outputDir saved ∧ saved.paths = List.map utf8 texts ∧
        splitWords text = some (texts.map fun path => literal path.toList) ∧ ∀ c ∈ text, isControl c = false) ∧
    (∀ saved, (run.paste fs outputDir target).result = .ok saved →
      run.SavedAs fs (run.paste fs outputDir target).fs outputDir saved ∧
        (run.paste fs outputDir target).typed.map Prod.fst = target) ∧
    (∀ directory reason, (run.paste fs outputDir target).result = .error (.tmuxPaste directory reason) →
      ∃ saved, saved.directory = directory ∧ run.SavedAs fs (run.paste fs outputDir target).fs outputDir saved) ∧
    (∀ e, (run.paste fs outputDir target).result = .error e → (∀ directory reason, e ≠ .tmuxPaste directory reason) →
      (run.paste fs outputDir target).typed = none ∧
        ((run.paste fs outputDir target).fs = fs ∨ ∃ dir, absoluteOutputDir run.currentDir outputDir = .ok dir ∧
          run.saving.OnlyComponents fs (run.paste fs outputDir target).fs (route dir.path))) ∧
    ((run.paste fs outputDir target).asked = true → ∀ pane, target = some pane → run.validateTmux pane = .ok ()) := by
  have hEnded := run.paste_cases fs outputDir target
  generalize run.paste fs outputDir target = outcome at hEnded
  cases hEnded with
  | refused hKind =>
      refine ⟨nofun, nofun, ?_, fun e _ _ => ⟨rfl, .inl rfl⟩, nofun⟩
      intro directory reason hSame
      exact absurd (Except.error.inj hSame) (hKind directory reason)
  | failed hTarget hDir hOnly hKind =>
      refine ⟨nofun, nofun, ?_, fun e _ _ => ⟨rfl, .inr ⟨_, hDir, hOnly⟩⟩, fun _ => hTarget⟩
      intro directory reason hSame
      exact absurd (Except.error.inj hSame) (hKind directory reason)
  | saved hSaved =>
      refine ⟨nofun, ?_, nofun, nofun, nofun⟩
      intro saved hSame
      obtain rfl := Except.ok.inj hSame
      exact ⟨hSaved, rfl⟩
  | @typed after saved pane texts typed result hPane hSaved hPaths hWords hPlain hResult =>
      refine ⟨?_, ?_, ?_, ?_, ?_⟩
      · intro other text hTyped
        obtain ⟨rfl, rfl⟩ := Prod.mk.inj (Option.some.inj hTyped)
        exact ⟨rfl, hPane, saved, texts, hSaved, hPaths, hWords, hPlain⟩
      · intro other hSame
        rcases hResult with rfl | ⟨reason, rfl⟩
        · obtain rfl := Except.ok.inj hSame
          exact ⟨hSaved, rfl⟩
        · cases hSame
      · intro directory reason hSame
        rcases hResult with rfl | ⟨told, rfl⟩
        · cases hSame
        · obtain ⟨rfl, -⟩ := PasteFailure.tmuxPaste.inj (Except.error.inj hSame)
          exact ⟨saved, rfl, hSaved⟩
      · intro e hSame hOther
        rcases hResult with rfl | ⟨told, rfl⟩
        · cases hSame
        · exact absurd (Except.error.inj hSame).symm (hOther saved.directory told)
      · rintro - other hOther
        obtain rfl := Option.some.inj hOther
        exact hPane

/-- Two images are received, and pane `%7` is there. -/
def twoPasted : PasteRun where
  insideTmux := true
  displayMessage := fun _ => .ok "%7\n"
  sendKeys := .ok ()
  currentDir := none
  transfer := some (.ok [(.png, [137, 80, 78, 71]), (.jpeg, [255, 216, 255])])
  saving := SaveRun.smooth

theorem paste_safe_two :
    ∃ text saved texts, (twoPasted.paste (FileSystem.bare 0o755) (utf8 "/out") (some "%7")).typed = some ("%7", text) ∧
      twoPasted.SavedAs (FileSystem.bare 0o755)
        (twoPasted.paste (FileSystem.bare 0o755) (utf8 "/out") (some "%7")).fs (utf8 "/out") saved ∧
      saved.paths = List.map utf8 texts ∧ splitWords text = some (texts.map fun path => literal path.toList) := by
  have hSafe := twoPasted.paste_safe (FileSystem.bare 0o755) (utf8 "/out") (some "%7")
  have hTyped : (twoPasted.paste (FileSystem.bare 0o755) (utf8 "/out") (some "%7")).typed.any (·.1 = "%7") = true := by
    decide +kernel
  obtain ⟨⟨pane, text⟩, hText, hPane⟩ := (Option.any_eq_true _ _).mp hTyped
  obtain rfl : pane = "%7" := by simpa using hPane
  obtain ⟨-, -, saved, texts, hSaved, hPaths, hWords, -⟩ := hSafe.1 "%7" text hText
  exact ⟨text, saved, texts, hText, hSaved, hPaths, hWords⟩

end PasteRun

end DevcontainerBridge
