import Mathlib.Data.List.TakeWhile
import Mathlib.Data.Option.Basic
import TokenStreaming.Cli.ParseArgs
import TokenStreaming.Foundation.Utf8

/-!
# Cli - The text of a task

What is left of the arguments when the options with their values are removed, and everything
behind the first {lit}`--`, is the text of a task.  The parser looks for subcommands at every
position, and it reads options behind {lit}`--` as well.

Main results:

- Theorem {lit}`readArgs_spec`: the loop keeps the command and collects the words.
- Theorem {lit}`task_text_kept_iff`: when the text becomes the task of a run.
- Theorem {lit}`task_text_rolls_back`: a task in words that calls for a rollback.
-/

namespace TokenStreaming
namespace Cli

open Core

/-! ## The words of a task -/

/-- The arguments that are left when the options with their values are removed. -/
def taskWords : List String → List String
  | [] => []
  | [arg] =>
      match kindOf arg none with
      | .flag => []
      | .help => []
      | _ => [arg]
  | arg :: value :: rest =>
      match kindOf arg (some value) with
      | .flag => taskWords (value :: rest)
      | .option => taskWords rest
      | .help => taskWords (value :: rest)
      | .part => arg :: taskWords (value :: rest)

/-- The arguments in front of the first {lit}`--`. -/
def optionPart (argv : List String) : List String :=
  argv.takeWhile (· ≠ "--")

/-- The arguments behind the first {lit}`--`. -/
def textPart (argv : List String) : List String :=
  (argv.dropWhile (· ≠ "--")).tail

def remainingWords (argv : List String) : List String :=
  taskWords (optionPart argv) ++ textPart argv

/-- The remaining words make the task of a run. -/
def TaskTextKept (platform : Platform) (argv : List String) : Prop :=
  ∃ parsed, parseArgs platform argv = .parsed parsed ∧ parsed.command = .run ∧
    parsed.task = " ".intercalate (remainingWords argv)

/-! ## Subcommands -/

/-- The arguments that the parser reads. -/
def arguments (argv : List String) : List String :=
  argv.filter (· ≠ "--")

/-- A subcommand begins at an argument that is not the value of an option. -/
def hasSubcommand : List String → Bool
  | [] => false
  | [arg] => !takesValue arg && (subcommandAt [arg]).isSome
  | arg :: value :: rest =>
      if takesValue arg then hasSubcommand rest
      else (subcommandAt (arg :: value :: rest)).isSome || hasSubcommand (value :: rest)

theorem subcommandAt_command {args : List String} {claim : Subcommand}
    (h : subcommandAt args = some claim) (p : ParsedArgs) :
    (claim.set args p).command ≠ .run := by
  have hcommand : ∀ subcommand ∈ SUBCOMMANDS, subcommand.command ≠ .run := by
    decide
  have hset : (claim.set args p).command = claim.command := by
    unfold Subcommand.set
    cases claim.task with
    | none => rfl
    | some task => rfl
  rw [hset]
  exact hcommand claim (List.mem_of_find?_eq_some h)

theorem claimCommand_of_none {args : List String} (h : hasSubcommand args = false)
    (parsed : ParsedArgs) : claimCommand args parsed = (args, parsed) := by
  fun_induction hasSubcommand args with
  | case1 => rfl
  | case2 arg =>
      rw [claimCommand]
      split
      · rfl
      · rename_i hvalue
        have hnone : subcommandAt [arg] = none := by
          simpa [hvalue] using h
        rw [hnone]
  | case3 arg value rest hvalue ih =>
      rw [claimCommand, if_pos hvalue, ih h]
  | case4 arg value rest hvalue ih =>
      rw [Bool.or_eq_false_iff] at h
      have hnone : subcommandAt (arg :: value :: rest) = none := by
        simpa using h.1
      rw [claimCommand, if_neg hvalue, hnone]
      dsimp only
      rw [ih h.2]

theorem claimCommand_of_some {args : List String} (h : hasSubcommand args = true)
    (parsed : ParsedArgs) : (claimCommand args parsed).2.command ≠ .run := by
  fun_induction hasSubcommand args with
  | case1 => cases h
  | case2 arg =>
      rw [Bool.and_eq_true, Bool.not_eq_true'] at h
      rcases Option.isSome_iff_exists.mp h.2 with ⟨claim, hclaim⟩
      rw [claimCommand, if_neg (by rw [h.1]; decide), hclaim]
      exact subcommandAt_command hclaim parsed
  | case3 arg value rest hvalue ih =>
      rw [claimCommand, if_pos hvalue]
      exact ih h
  | case4 arg value rest hvalue ih =>
      rw [claimCommand, if_neg hvalue]
      cases hclaim : subcommandAt (arg :: value :: rest) with
      | some claim => exact subcommandAt_command hclaim parsed
      | none =>
          rw [hclaim, Option.isSome_none, Bool.false_or] at h
          exact ih h

/-! ## Options -/

/-- No help is asked for, and the value of every option is accepted. -/
def OptionsAccepted (platform : Platform) : List String → Prop
  | [] => True
  | [arg] => kindOf arg none ≠ .help
  | arg :: value :: rest =>
      match kindOf arg (some value) with
      | .flag => OptionsAccepted platform (value :: rest)
      | .option => (readOption platform arg value).isOk = true ∧ OptionsAccepted platform rest
      | .help => False
      | .part => OptionsAccepted platform (value :: rest)

/-- A setting of an option leaves the command and the task. -/
def KeepsTask (set : Setting) : Prop :=
  ∀ p, (set p).command = p.command ∧ (set p).task = p.task

theorem mem_of_lookup {α β : Type} [BEq α] [LawfulBEq α] {entries : List (α × β)} {key : α}
    {value : β} (h : entries.lookup key = some value) : (key, value) ∈ entries := by
  rcases List.lookup_eq_some_iff.mp h with ⟨front, back, rfl, -⟩
  exact List.mem_append_right front List.mem_cons_self

theorem readFlag_keepsTask (arg : String) : KeepsTask ((readFlag arg).getD id) := by
  have hflags : ∀ flag ∈ FLAGS, KeepsTask flag.2 := by
    simp [FLAGS, KeepsTask]
  cases hflag : readFlag arg with
  | none => exact fun p => ⟨rfl, rfl⟩
  | some set => exact hflags _ (mem_of_lookup hflag)

theorem keepsTask_of_map {α : Type} {parsed : Except String α} {f : α → Setting} {set : Setting}
    (h : parsed.map f = .ok set) (hf : ∀ v, KeepsTask (f v)) : KeepsTask set := by
  cases parsed with
  | error message => cases h
  | ok v =>
      rw [← Except.ok.inj h]
      exact hf v

theorem keepsTask_of_ok {f set : Setting} (h : (.ok f : Except String Setting) = .ok set)
    (hf : KeepsTask f) : KeepsTask set := by
  rw [← Except.ok.inj h]
  exact hf

theorem readOption_keepsTask {platform : Platform} {arg value : String} {set : Setting}
    (h : readOption platform arg value = .ok set) : KeepsTask set := by
  have hoptions : ∀ option ∈ OPTIONS platform, ∀ value set, option.2 value = .ok set →
      KeepsTask set := by
    simp only [OPTIONS, List.forall_mem_cons, List.not_mem_nil, false_implies, implies_true,
      and_true]
    refine ⟨?_, ?_, ?_, ?_, ?_, ?_, ?_, ?_, ?_, ?_, ?_⟩ <;> intro value set hset
    · exact keepsTask_of_map hset fun v p => ⟨rfl, rfl⟩
    · exact keepsTask_of_map hset fun v p => ⟨rfl, rfl⟩
    · exact keepsTask_of_ok hset fun p => ⟨rfl, rfl⟩
    · exact keepsTask_of_ok hset fun p => ⟨rfl, rfl⟩
    · exact keepsTask_of_map hset fun v p => ⟨rfl, rfl⟩
    · exact keepsTask_of_map hset fun v p => ⟨rfl, rfl⟩
    · exact keepsTask_of_map hset fun v p => ⟨rfl, rfl⟩
    · exact keepsTask_of_map hset fun v p => ⟨rfl, rfl⟩
    · exact keepsTask_of_ok hset fun p => ⟨rfl, rfl⟩
    · exact keepsTask_of_ok hset fun p => ⟨rfl, rfl⟩
    · exact keepsTask_of_ok hset fun p => ⟨rfl, rfl⟩
  unfold readOption at h
  split at h
  · rename_i read hread
    exact hoptions _ (mem_of_lookup hread) value set h
  · exact keepsTask_of_ok h fun p => ⟨rfl, rfl⟩

/-- The task that the words make, or the one that stood before. -/
def taskOf (task : String) (words : List String) : String :=
  if words = [] then task else " ".intercalate words

theorem finish_command (parsed : ParsedArgs) (taskParts : List String) :
    (finish parsed taskParts).command = parsed.command := by
  unfold finish
  split <;> rfl

theorem finish_task (parsed : ParsedArgs) (taskParts : List String) :
    (finish parsed taskParts).task = taskOf parsed.task taskParts := by
  unfold finish taskOf
  split <;> rfl

theorem pushPart_eq (taskParts : List String) (arg : String) :
    pushPart taskParts arg = taskParts ++ [arg].filter (· ≠ "") := by
  unfold pushPart
  by_cases h : arg = ""
  · simp [h]
  · simp [h]

/-- The last argument is not an option that waits for its value. -/
theorem kindOf_none (arg : String) : kindOf arg none ≠ .option := by
  unfold kindOf
  rw [Option.any_none, Bool.and_false, if_neg Bool.false_ne_true]
  repeat' split
  all_goals
    intro h
    cases h

/-- What the loop returns, from its state in front of some arguments. -/
structure ReadsTask (platform : Platform) (args : List String) (parsed : ParsedArgs)
    (taskParts : List String) : Prop where
  accepted : OptionsAccepted platform args → ∃ p,
    readArgs platform args parsed taskParts = .parsed p ∧ p.command = parsed.command ∧
      p.task = taskOf parsed.task (taskParts ++ (taskWords args).filter (· ≠ ""))
  refused : ¬ OptionsAccepted platform args → ∀ p,
    readArgs platform args parsed taskParts ≠ .parsed p

/-- One round of the loop. -/
theorem ReadsTask.round {platform : Platform} {args args' : List String}
    {parsed parsed' : ParsedArgs} {taskParts taskParts' : List String}
    (h : ReadsTask platform args' parsed' taskParts')
    (hread : readArgs platform args parsed taskParts = readArgs platform args' parsed' taskParts')
    (haccepted : OptionsAccepted platform args ↔ OptionsAccepted platform args')
    (hkept : parsed'.command = parsed.command ∧ parsed'.task = parsed.task)
    (hwords : taskParts' ++ (taskWords args').filter (· ≠ "") =
      taskParts ++ (taskWords args).filter (· ≠ "")) :
    ReadsTask platform args parsed taskParts where
  accepted := by
    intro hargs
    rcases h.accepted (haccepted.mp hargs) with ⟨p, hp, hcommand, htask⟩
    refine ⟨p, hread.trans hp, hcommand.trans hkept.1, ?_⟩
    rw [htask, hkept.2, hwords]
  refused := by
    intro hargs p
    rw [hread]
    exact h.refused (fun hargs' => hargs (haccepted.mpr hargs')) p

/-- The loop keeps the command and collects the words. -/
theorem readArgs_spec (platform : Platform) (args : List String) (parsed : ParsedArgs)
    (taskParts : List String) : ReadsTask platform args parsed taskParts := by
  have hdone : ∀ parsed taskParts, ReadsTask platform [] parsed taskParts := by
    intro parsed taskParts
    constructor
    · intro _
      refine ⟨_, by rw [readArgs], finish_command _ _, ?_⟩
      rw [finish_task, taskWords, List.filter_nil, List.append_nil]
    · exact fun h => absurd trivial h
  fun_induction readArgs platform args parsed taskParts with
  | case1 parsed taskParts => exact hdone parsed taskParts
  | case2 arg parsed taskParts hkind =>
      refine (hdone (((readFlag arg).getD id) parsed) taskParts).round ?_ ?_
        (readFlag_keepsTask arg parsed) ?_
      · simp only [readArgs, hkind]
      · simp [OptionsAccepted, hkind]
      · simp only [taskWords, hkind]
  | case3 arg parsed taskParts hkind =>
      constructor
      · intro hargs
        exact absurd hkind hargs
      · intro _ p
        rw [readArgs, hkind]
        intro h
        cases h
  | case4 arg parsed taskParts hflag hhelp =>
      have hkind : kindOf arg none = .part := by
        cases hkind : kindOf arg none with
        | flag => exact absurd hkind hflag
        | option => exact absurd hkind (kindOf_none arg)
        | help => exact absurd hkind hhelp
        | part => rfl
      refine (hdone parsed (pushPart taskParts arg)).round ?_ ?_ ⟨rfl, rfl⟩ ?_
      · simp only [readArgs, hkind]
      · exact ⟨fun _ => trivial, fun _ => hhelp⟩
      · simp only [taskWords, hkind, pushPart_eq, List.filter_nil, List.append_nil]
  | case5 arg value rest parsed taskParts hkind ih =>
      refine ih.round ?_ ?_ (readFlag_keepsTask arg parsed) ?_
      · rw [readArgs, hkind]
      · rw [OptionsAccepted, hkind]
      · rw [taskWords, hkind]
  | case6 arg value rest parsed taskParts hkind message hmessage =>
      constructor
      · intro hargs
        rw [OptionsAccepted, hkind] at hargs
        dsimp only at hargs
        rw [hmessage] at hargs
        cases hargs.1
      · intro _ p
        rw [readArgs, hkind]
        dsimp only
        rw [hmessage]
        intro h
        cases h
  | case7 arg value rest parsed taskParts hkind set hset ih =>
      refine ih.round ?_ ?_ (readOption_keepsTask hset parsed) ?_
      · rw [readArgs, hkind]
        dsimp only
        rw [hset]
      · rw [OptionsAccepted, hkind]
        dsimp only
        rw [hset]
        exact ⟨fun h => h.2, fun h => ⟨rfl, h⟩⟩
      · rw [taskWords, hkind]
  | case8 arg value rest parsed taskParts hkind =>
      constructor
      · intro hargs
        rw [OptionsAccepted, hkind] at hargs
        exact hargs.elim
      · intro _ p
        rw [readArgs, hkind]
        intro h
        cases h
  | case9 arg value rest parsed taskParts hkind ih =>
      refine ih.round ?_ ?_ ⟨rfl, rfl⟩ ?_
      · rw [readArgs, hkind]
      · rw [OptionsAccepted, hkind]
      · rw [taskWords, hkind, pushPart_eq, List.append_assoc, ← List.filter_append,
          List.singleton_append]

/-! ## Joined words -/

theorem size_intercalate {words : List String} (h : words ≠ []) :
    (" ".intercalate words).utf8ByteSize + 1 = (words.map fun w => w.utf8ByteSize + 1).sum := by
  induction words with
  | nil => exact absurd rfl h
  | cons w words ih =>
      cases words with
      | nil => simp
      | cons next words =>
          have hrest := ih (List.cons_ne_nil next words)
          have hspace : (" " : String).utf8ByteSize = 1 := by decide +kernel
          rw [String.intercalate_cons_cons, String.utf8ByteSize_append,
            String.utf8ByteSize_append, List.map_cons, List.sum_cons]
          omega

/-- A part of some words with the same size is all of them. -/
theorem eq_of_sublist_of_size {part words : List String} (h : part.Sublist words)
    (hsize : (words.map fun w => w.utf8ByteSize + 1).sum ≤
      (part.map fun w => w.utf8ByteSize + 1).sum) : part = words := by
  have hle : ∀ {a b : List String}, a.Sublist b →
      (a.map fun w => w.utf8ByteSize + 1).sum ≤ (b.map fun w => w.utf8ByteSize + 1).sum := by
    intro a b hab
    induction hab with
    | slnil => exact Nat.le_refl _
    | cons w _ ih =>
        rw [List.map_cons, List.sum_cons]
        omega
    | cons_cons w _ ih =>
        rw [List.map_cons, List.sum_cons, List.map_cons, List.sum_cons]
        omega
  induction h with
  | slnil => rfl
  | @cons part words w hpart ih =>
      have hpartle := hle hpart
      rw [List.map_cons, List.sum_cons] at hsize
      omega
  | @cons_cons part words w hpart ih =>
      rw [List.map_cons, List.sum_cons, List.map_cons, List.sum_cons] at hsize
      rw [ih (by omega)]

/-- The first character of joined words. -/
theorem head_intercalate (w : String) (words : List String) :
    (" ".intercalate (w :: words)).toList.head? =
      (w.toList.head?).or (if words = [] then none else some ' ') := by
  cases words with
  | nil => simp
  | cons next words =>
      rw [String.intercalate_cons_cons, String.toList_append, String.toList_append,
        List.head?_append, List.head?_append, if_neg (List.cons_ne_nil next words), Option.or_assoc]
      rfl

/-! ## Words in front of and behind a separator -/

/-- What does not begin with a hyphen is no option. -/
theorem kindOf_of_plain {arg : String} (h : arg.toList.head? ≠ some '-') (next : Option String) :
    kindOf arg next = .part := by
  have hflags : ∀ flag ∈ FLAGS, flag.1.toList.head? = some '-' := by
    simp [FLAGS]
  have hflag : readFlag arg = none := by
    cases hread : readFlag arg with
    | none => rfl
    | some set => exact absurd (hflags _ (mem_of_lookup hread)) h
  have hvalue : takesValue arg = false := by
    unfold takesValue
    rw [decide_eq_false_iff_not]
    intro hmem
    have hoptions : ∀ option ∈ ["--approval", "-C", "--cwd", "--mode", "--strategy", "--provider",
        "--api-protocol", "--model", "--patch-file", "--input-file", "--keep"],
        option.toList.head? = some '-' := by
      decide +kernel
    exact h (hoptions arg hmem)
  have hhelp : isHelp arg = false := by
    unfold isHelp
    rw [Bool.or_eq_false_iff, decide_eq_false_iff_not, decide_eq_false_iff_not]
    constructor
    · rintro rfl
      exact h (by decide +kernel)
    · rintro rfl
      exact h (by decide +kernel)
  unfold kindOf
  rw [hflag, hvalue, hhelp]
  rfl

/-- How an argument is taken depends on the next one only between an option and a part. -/
theorem kindOf_flag {arg : String} {next : Option String} (h : kindOf arg next = .flag)
    (other : Option String) : kindOf arg other = .flag := by
  unfold kindOf at h ⊢
  split at h
  · rename_i hflag
    rw [if_pos hflag]
  · split at h
    · cases h
    · split at h
      · cases h
      · cases h

/-- A command line without options is accepted. -/
theorem optionsAccepted_of_plain {platform : Platform} {args : List String}
    (h : ∀ arg ∈ args, arg.toList.head? ≠ some '-') : OptionsAccepted platform args := by
  induction args with
  | nil => trivial
  | cons arg args ih =>
      have harg := kindOf_of_plain (h arg List.mem_cons_self)
      have hrest := ih fun other hother => h other (List.mem_cons_of_mem arg hother)
      cases args with
      | nil =>
          rw [OptionsAccepted, harg]
          intro hhelp
          cases hhelp
      | cons value rest =>
          rw [OptionsAccepted, harg]
          exact hrest

theorem kindOf_part {arg : String} {next : Option String} (h : kindOf arg next = .part)
    (other : Option String) : kindOf arg other ≠ .help := by
  have hhelp : isHelp arg = false := by
    unfold kindOf at h
    split at h
    · cases h
    · split at h
      · cases h
      · split at h
        · cases h
        · rename_i hhelp
          exact Bool.eq_false_iff.mpr hhelp
  unfold kindOf
  rw [hhelp, if_neg Bool.false_ne_true]
  repeat' split
  all_goals
    intro hother
    cases hother

theorem kindOf_help {arg : String} {next : Option String} (h : kindOf arg next = .help)
    (other : Option String) : kindOf arg other = .help := by
  have hhelp : arg = "--help" ∨ arg = "-h" := by
    unfold kindOf at h
    split at h
    · cases h
    · split at h
      · cases h
      · split at h
        · rename_i hhelp
          simpa [isHelp] using hhelp
        · cases h
  rcases hhelp with rfl | rfl <;> rfl

theorem taskWords_sublist (args : List String) : (taskWords args).Sublist args := by
  fun_induction taskWords args with
  | case1 => exact List.Sublist.refl _
  | case2 => exact List.nil_sublist _
  | case3 => exact List.nil_sublist _
  | case4 => exact List.Sublist.refl _
  | case5 arg value rest _ ih => exact ih.cons arg
  | case6 arg value rest _ ih => exact (ih.cons value).cons arg
  | case7 arg value rest _ ih => exact ih.cons arg
  | case8 arg value rest _ ih => exact ih.cons_cons arg

/-- Reading two parts together leaves no more words. -/
theorem taskWords_append_sublist (front back : List String) :
    (taskWords (front ++ back)).Sublist (taskWords front ++ back) := by
  have hone : ∀ arg, (taskWords (arg :: back)).Sublist (taskWords [arg] ++ back) := by
    intro arg
    cases back with
    | nil => rw [List.append_nil]
    | cons value back =>
        have hback := taskWords_sublist (value :: back)
        cases hkind : kindOf arg (some value) with
        | flag =>
            simp only [taskWords, hkind]
            exact hback.trans (List.sublist_append_right _ _)
        | option =>
            simp only [taskWords, hkind]
            exact ((taskWords_sublist back).cons value).trans (List.sublist_append_right _ _)
        | help =>
            simp only [taskWords, hkind]
            exact hback.trans (List.sublist_append_right _ _)
        | part =>
            have hlast : taskWords [arg] = [arg] := by
              cases hnone : kindOf arg none with
              | flag => rw [kindOf_flag hnone (some value)] at hkind; cases hkind
              | help => exact absurd hnone (kindOf_part hkind none)
              | option => exact absurd hnone (kindOf_none arg)
              | part => simp only [taskWords, hnone]
            rw [hlast]
            simp only [taskWords, hkind]
            exact hback.cons_cons arg
  fun_induction taskWords front with
  | case1 => exact taskWords_sublist back
  | case2 arg hkind =>
      have h := hone arg
      simp only [taskWords, hkind] at h
      exact h
  | case3 arg hkind =>
      have h := hone arg
      simp only [taskWords, hkind] at h
      exact h
  | case4 arg hflag hhelp =>
      refine (hone arg).trans ?_
      exact List.Sublist.append_right (taskWords_sublist [arg]) back
  | case5 arg value rest hkind ih =>
      simp only [List.cons_append, taskWords, hkind]
      exact ih
  | case6 arg value rest hkind ih =>
      simp only [List.cons_append, taskWords, hkind]
      exact ih
  | case7 arg value rest hkind ih =>
      simp only [List.cons_append, taskWords, hkind]
      exact ih
  | case8 arg value rest hkind ih =>
      simp only [List.cons_append, taskWords, hkind]
      exact ih.cons_cons arg

/-- The first word in front of or behind a separator is read, unless it begins with a hyphen. -/
theorem mem_taskWords_append {front back back' : List String} {w : String} {words : List String}
    (h : taskWords front ++ back = w :: words) (hplain : w.toList.head? ≠ some '-')
    (hback : ∀ tail, back = w :: tail → ∃ tail', back' = w :: tail') :
    w ∈ taskWords (front ++ back') := by
  have hhead : ∀ args, w ∈ taskWords (w :: args) := by
    intro args
    cases args with
    | nil => simp [taskWords, kindOf_of_plain hplain]
    | cons next args => simp [taskWords, kindOf_of_plain hplain]
  have hbehind : ∀ tail, back = w :: tail → w ∈ taskWords back' := by
    intro tail htail
    rcases hback tail htail with ⟨tail', rfl⟩
    exact hhead tail'
  fun_induction taskWords front with
  | case1 => exact hbehind words h
  | case2 arg hkind =>
      have hsome := hbehind words h
      cases hback' : back' with
      | nil => rw [hback'] at hsome; exact absurd hsome List.not_mem_nil
      | cons next rest =>
          rw [hback'] at hsome
          simp only [List.cons_append, List.nil_append, taskWords, kindOf_flag hkind (some next)]
          exact hsome
  | case3 arg hkind =>
      have hsome := hbehind words h
      cases hback' : back' with
      | nil => rw [hback'] at hsome; exact absurd hsome List.not_mem_nil
      | cons next rest =>
          rw [hback'] at hsome
          simp only [List.cons_append, List.nil_append, taskWords, kindOf_help hkind (some next)]
          exact hsome
  | case4 arg hflag hhelp =>
      injection h with harg _
      subst harg
      exact hhead back'
  | case5 arg value rest hkind ih =>
      simp only [List.cons_append, taskWords, hkind]
      exact ih h
  | case6 arg value rest hkind ih =>
      simp only [List.cons_append, taskWords, hkind]
      exact ih h
  | case7 arg value rest hkind ih =>
      simp only [List.cons_append, taskWords, hkind]
      exact ih h
  | case8 arg value rest hkind ih =>
      injection h with harg _
      subst harg
      exact hhead _

theorem arguments_eq (argv : List String) :
    arguments argv = optionPart argv ++ (textPart argv).filter (· ≠ "--") := by
  unfold arguments optionPart textPart
  induction argv with
  | nil => rfl
  | cons arg argv ih =>
      by_cases harg : arg = "--"
      · simp [harg]
      · simp only [List.filter_cons, List.takeWhile_cons, List.dropWhile_cons, harg, ne_eq,
          not_false_eq_true, decide_true, if_true, List.cons_append]
        rw [ih]

/-- Words that spell the default task are read. -/
theorem words_read_of_default {argv : List String}
    (h : " ".intercalate (remainingWords argv) = "summarize this repository") :
    (taskWords (arguments argv)).filter (· ≠ "") ≠ [] := by
  intro hnil
  have hhead := congrArg (fun text => text.toList.head?) h
  rw [show ("summarize this repository" : String).toList.head? = some 's' by decide +kernel] at hhead
  cases hremaining : remainingWords argv with
  | nil =>
      rw [hremaining] at hhead
      exact absurd hhead (by decide +kernel)
  | cons w words =>
      rw [hremaining, head_intercalate] at hhead
      by_cases hempty : w = ""
      · subst hempty
        rw [show ("" : String).toList.head? = none by decide +kernel, Option.none_or] at hhead
        split at hhead
        · cases hhead
        · exact absurd hhead (by decide)
      · have hplain : w.toList.head? ≠ some '-' := by
          intro hhyphen
          rw [hhyphen, Option.some_or] at hhead
          exact absurd hhead (by decide)
        have hmem : w ∈ taskWords (arguments argv) := by
          rw [arguments_eq]
          refine mem_taskWords_append hremaining hplain ?_
          intro tail htail
          have hseparator : w ≠ "--" := by
            rintro rfl
            exact hplain (by decide +kernel)
          refine ⟨tail.filter (· ≠ "--"), ?_⟩
          rw [htail, List.filter_cons_of_pos (by simpa using hseparator)]
        have hkept : w ∈ (taskWords (arguments argv)).filter (· ≠ "") :=
          List.mem_filter.mpr ⟨hmem, by simpa using hempty⟩
        rw [hnil] at hkept
        exact absurd hkept List.not_mem_nil

/-- The remaining words become the task of a run exactly when no argument that is not the value
of an option begins a subcommand, every option is accepted, no word behind the separator is read
as an option or as its value, and no word is empty. -/
theorem task_text_kept_iff (platform : Platform) (argv : List String)
    (hwords : remainingWords argv ≠ [])
    (_ : subcommandAt (taskWords (optionPart argv)) = none) :
    TaskTextKept platform argv ↔
      hasSubcommand (arguments argv) = false ∧ OptionsAccepted platform (arguments argv) ∧
        taskWords (arguments argv) = remainingWords argv ∧ "" ∉ remainingWords argv := by
  constructor
  · rintro ⟨p, hparsed, hcommand, htask⟩
    unfold parseArgs at hparsed
    have hclaim : hasSubcommand (arguments argv) = false := by
      by_contra hsome
      rw [Bool.not_eq_false] at hsome
      have hclaimed := claimCommand_of_some hsome { cwd := platform.cwd }
      rcases hargs : claimCommand (arguments argv) { cwd := platform.cwd } with ⟨args, parsed⟩
      rw [hargs] at hclaimed
      unfold arguments at hargs
      rw [hargs] at hparsed
      dsimp only at hparsed
      by_cases haccepted : OptionsAccepted platform args
      · rcases (readArgs_spec platform args parsed []).accepted haccepted with ⟨q, hq, hkept, -⟩
        rw [hq] at hparsed
        cases hparsed
        exact hclaimed (hkept.symm.trans hcommand)
      · exact (readArgs_spec platform args parsed []).refused haccepted p hparsed
    have hargs := claimCommand_of_none hclaim { cwd := platform.cwd }
    unfold arguments at hargs
    rw [hargs] at hparsed
    dsimp only at hparsed
    have hspec := readArgs_spec platform (arguments argv) { cwd := platform.cwd } []
    have haccepted : OptionsAccepted platform (arguments argv) := by
      by_contra hnot
      exact hspec.refused hnot p hparsed
    rcases hspec.accepted haccepted with ⟨q, hq, -, hread⟩
    unfold arguments at hq
    rw [hq] at hparsed
    cases hparsed
    rw [List.nil_append] at hread
    rw [hread] at htask
    have hsublist : (taskWords (arguments argv)).Sublist (remainingWords argv) := by
      rw [arguments_eq]
      refine (taskWords_append_sublist _ _).trans ?_
      exact List.Sublist.append_left List.filter_sublist _
    have hparts : ((taskWords (arguments argv)).filter (· ≠ "")).Sublist (remainingWords argv) :=
      List.filter_sublist.trans hsublist
    have hnonempty : (taskWords (arguments argv)).filter (· ≠ "") ≠ [] := by
      intro hnil
      rw [hnil] at htask
      exact words_read_of_default htask.symm hnil
    unfold taskOf at htask
    rw [if_neg hnonempty] at htask
    have hsize := congrArg String.utf8ByteSize htask
    have heq := eq_of_sublist_of_size hparts (by
      rw [← size_intercalate hwords, ← size_intercalate hnonempty, hsize])
    have hall : taskWords (arguments argv) = remainingWords argv := by
      refine hsublist.antisymm ?_
      rw [← heq]
      exact List.filter_sublist
    refine ⟨hclaim, haccepted, hall, ?_⟩
    rw [← heq]
    simp
  · rintro ⟨hclaim, haccepted, hall, hempty⟩
    rcases (readArgs_spec platform (arguments argv) { cwd := platform.cwd } []).accepted haccepted
      with ⟨p, hp, hcommand, htask⟩
    have hargs := claimCommand_of_none hclaim { cwd := platform.cwd }
    refine ⟨p, ?_, hcommand, ?_⟩
    · unfold parseArgs
      unfold arguments at hargs hp
      rw [hargs]
      exact hp
    · have hfilter : (taskWords (arguments argv)).filter (· ≠ "") = remainingWords argv := by
        rw [hall, List.filter_eq_self]
        intro w hw
        rw [decide_eq_true_eq]
        rintro rfl
        exact hempty hw
      rw [htask, List.nil_append, hfilter]
      exact if_neg hwords

/-! ## Two command lines -/

/-- A process whose numbers are those of the texts that are only digits. -/
def plainPlatform : Platform where
  cwd := "/repository"
  count := String.toNat?

/-- {lit}`--mode max fix -- the parser`. -/
theorem task_text_kept_iff_sample :
    remainingWords ["--mode", "max", "fix", "--", "the", "parser"] ≠ [] ∧
      subcommandAt (taskWords (optionPart ["--mode", "max", "fix", "--", "the", "parser"])) = none ∧
      TaskTextKept plainPlatform ["--mode", "max", "fix", "--", "the", "parser"] := by
  have hfacts : remainingWords ["--mode", "max", "fix", "--", "the", "parser"] ≠ [] ∧
      subcommandAt (taskWords (optionPart ["--mode", "max", "fix", "--", "the", "parser"])) = none ∧
      hasSubcommand (arguments ["--mode", "max", "fix", "--", "the", "parser"]) = false ∧
      taskWords (arguments ["--mode", "max", "fix", "--", "the", "parser"]) =
        remainingWords ["--mode", "max", "fix", "--", "the", "parser"] ∧
      "" ∉ remainingWords ["--mode", "max", "fix", "--", "the", "parser"] := by
    decide +kernel
  rcases hfacts with ⟨hwords, hfirst, hclaim, htext, hempty⟩
  refine ⟨hwords, hfirst, (task_text_kept_iff plainPlatform _ hwords hfirst).mpr ?_⟩
  have harguments : arguments ["--mode", "max", "fix", "--", "the", "parser"] =
      ["--mode", "max", "fix", "the", "parser"] := by
    decide +kernel
  have hmode : kindOf "--mode" (some "max") = .option := by
    decide +kernel
  have haccepted : OptionsAccepted plainPlatform ["--mode", "max", "fix", "the", "parser"] := by
    rw [OptionsAccepted, hmode]
    exact ⟨by decide +kernel, optionsAccepted_of_plain (by decide +kernel)⟩
  rw [harguments] at hclaim htext ⊢
  exact ⟨hclaim, haccepted, htext, hempty⟩

/-- A task in words that calls for a rollback is executed as one. -/
theorem task_text_rolls_back :
    ¬ ∀ (platform : Platform) (argv : List String), remainingWords argv ≠ [] →
      subcommandAt (taskWords (optionPart argv)) = none → TaskTextKept platform argv := by
  intro hkept
  have hfacts : remainingWords ["please", "rollback", "the", "last", "change"] ≠ [] ∧
      subcommandAt (taskWords (optionPart ["please", "rollback", "the", "last", "change"])) = none ∧
      ∃ parsed, parseArgs plainPlatform ["please", "rollback", "the", "last", "change"] =
        .parsed parsed ∧ parsed.command = .rollback :=
    ⟨by decide +kernel, by decide +kernel, _, rfl, by decide +kernel⟩
  rcases hfacts with ⟨hwords, hfirst, parsed, hparsed, hrollback⟩
  rcases hkept plainPlatform _ hwords hfirst with ⟨other, hother, hrun, -⟩
  rw [hparsed] at hother
  cases hother
  rw [hrollback] at hrun
  cases hrun

end Cli
end TokenStreaming
