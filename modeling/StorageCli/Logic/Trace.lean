import StorageCli.Model.EventDefs

/-! Projections of a run's events: the keys it read from the console, the blocks it handed to
`storage_file_write`, the answers of its reads, the bytes it sent with `putchar` and those it
printed with `%c`, each in the order of the run. -/

namespace StorageCli

@[simp] def Event.key? : Event → Option UInt8
  | .cliGetc c => some c
  | _ => none

@[simp] def Event.block? : Event → Option (List UInt8)
  | .storageFileWrite data _ => some data
  | _ => none

@[simp] def Event.byte? : Event → Option UInt8
  | .putchar c => some c
  | _ => none

@[simp] def Event.read? : Event → Option (List UInt8)
  | .storageFileRead _ data => some data
  | _ => none

@[simp] def Event.echo? : Event → Option UInt8
  | .printf "%c" [.chr c] => some c
  | _ => none

def keys (evs : List Event) : List UInt8 := evs.filterMap Event.key?

def blocks (evs : List Event) : List (List UInt8) := evs.filterMap Event.block?

def putchars (evs : List Event) : List UInt8 := evs.filterMap Event.byte?

def reads (evs : List Event) : List (List UInt8) := evs.filterMap Event.read?

def echoes (evs : List Event) : List UInt8 := evs.filterMap Event.echo?

section Lemmas
variable (e : Event) (evs evs' : List Event)

@[simp] theorem keys_nil : keys [] = [] := rfl
@[simp] theorem keys_cons : keys (e :: evs) = e.key?.toList ++ keys evs := by
  cases h : e.key? <;>
    simp only [keys, List.filterMap_cons, h, Option.toList, List.nil_append, List.singleton_append]
@[simp] theorem keys_append : keys (evs ++ evs') = keys evs ++ keys evs' :=
  List.filterMap_append _ _ _

@[simp] theorem blocks_nil : blocks [] = [] := rfl
@[simp] theorem blocks_cons : blocks (e :: evs) = e.block?.toList ++ blocks evs := by
  cases h : e.block? <;>
    simp only [blocks, List.filterMap_cons, h, Option.toList, List.nil_append, List.singleton_append]
@[simp] theorem blocks_append : blocks (evs ++ evs') = blocks evs ++ blocks evs' :=
  List.filterMap_append _ _ _

@[simp] theorem putchars_nil : putchars [] = [] := rfl
@[simp] theorem putchars_cons : putchars (e :: evs) = e.byte?.toList ++ putchars evs := by
  cases h : e.byte? <;>
    simp only [putchars, List.filterMap_cons, h, Option.toList, List.nil_append, List.singleton_append]
@[simp] theorem putchars_append : putchars (evs ++ evs') = putchars evs ++ putchars evs' :=
  List.filterMap_append _ _ _

@[simp] theorem reads_nil : reads [] = [] := rfl
@[simp] theorem reads_cons : reads (e :: evs) = e.read?.toList ++ reads evs := by
  cases h : e.read? <;>
    simp only [reads, List.filterMap_cons, h, Option.toList, List.nil_append, List.singleton_append]
@[simp] theorem reads_append : reads (evs ++ evs') = reads evs ++ reads evs' :=
  List.filterMap_append _ _ _

@[simp] theorem echoes_nil : echoes [] = [] := rfl
@[simp] theorem echoes_cons : echoes (e :: evs) = e.echo?.toList ++ echoes evs := by
  cases h : e.echo? <;>
    simp only [echoes, List.filterMap_cons, h, Option.toList, List.nil_append, List.singleton_append]
@[simp] theorem echoes_append : echoes (evs ++ evs') = echoes evs ++ echoes evs' :=
  List.filterMap_append _ _ _

@[simp] theorem echo?_printf_str (fmt s : String) (args : List PrintfArg) :
    Event.echo? (.printf fmt (.str s :: args)) = none := by
  simp only [Event.echo?]

@[simp] theorem echo?_printf_num (fmt : String) (n : Nat) (args : List PrintfArg) :
    Event.echo? (.printf fmt (.num n :: args)) = none := by
  simp only [Event.echo?]

@[simp] theorem echo?_printf_nil (fmt : String) : Event.echo? (.printf fmt []) = none := by
  simp only [Event.echo?]

@[simp] theorem putchars_map_putchar (l : List UInt8) : putchars (l.map .putchar) = l := by
  induction l <;> simp_all

@[simp] theorem keys_map_putchar (l : List UInt8) : keys (l.map .putchar) = [] := by
  induction l <;> simp_all

@[simp] theorem blocks_map_putchar (l : List UInt8) : blocks (l.map .putchar) = [] := by
  induction l <;> simp_all

@[simp] theorem reads_map_putchar (l : List UInt8) : reads (l.map .putchar) = [] := by
  induction l <;> simp_all

@[simp] theorem echoes_map_echo (l : List UInt8) :
    echoes (l.map fun c => .printf "%c" [.chr c]) = l := by
  induction l <;> simp_all

@[simp] theorem reads_map_echo (l : List UInt8) :
    reads (l.map fun c => .printf "%c" [.chr c]) = [] := by
  induction l <;> simp_all

section Usage
variable (l : List String)

@[simp] theorem keys_map_printf : keys (l.map fun line => .printf line []) = [] := by
  induction l <;> simp_all

@[simp] theorem reads_map_printf : reads (l.map fun line => .printf line []) = [] := by
  induction l <;> simp_all

@[simp] theorem putchars_map_printf : putchars (l.map fun line => .printf line []) = [] := by
  induction l <;> simp_all

end Usage

end Lemmas

end StorageCli
