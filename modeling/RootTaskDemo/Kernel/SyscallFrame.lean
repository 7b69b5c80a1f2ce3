import RootTaskDemo.Kernel.Frame

namespace RootTaskDemo.Kernel

open Common Lib Thread

variable {ν α β : Type} {platform : Platform} {strict : Prop} {through : Nat → Prop} {space : ObjId}
variable {f : Callback ν β}

/-! The system calls that change no task and no address space but the kernel
thread's own. Those that allocate nothing leave every capability as it is. -/

theorem taskOf_quietly (badge : Nat) :
    Evolves (Quietly strict through) (taskOf badge : KernelM ν _) := by
  refine .bind Evolves.read fun state => ?_
  split
  · exact .stop
  · exact .pure

theorem taskOf_returns {state : KernelState ν} {badge : Nat} {task : Sel4Task}
    (found : state.tasks[badge]? = some task) :
    Delivers state (taskOf badge) fun result after => result = task ∧ after = state := by
  refine .read_bind ?_
  rintro state rfl
  simp only [found]
  exact .pure fun _ same => ⟨rfl, same⟩

theorem processPages_quietly (reads : strict → ¬ through platform.pageSeat) (task : Sel4Task)
    (addr : Nat)
    (data : ∀ seat offset count acc, Evolves (DataOnly strict through) (f seat offset count acc))
    (fuel len bufAddr : Nat) (acc : β) :
    Evolves (Quietly strict through) (processPages platform task addr f fuel len bufAddr acc) := by
  induction fuel generalizing len bufAddr acc with
  | zero => exact .pure
  | succ fuel ih =>
    unfold processPages
    split
    · exact .pure
    · split
      · exact .pure
      · exact (withPage_quietly _ (data _ _ _ _) reads).bind fun acc => ih _ _ acc

theorem processItemList_quietly (reads : strict → ¬ through platform.pageSeat) (size : Nat)
    (task : Sel4Task) (addr : Nat) (number : Option Nat)
    (data : ∀ seat offset count acc, Evolves (DataOnly strict through) (f seat offset count acc))
    (init : β) :
    Evolves (Quietly strict through) (processItemList platform size task addr number f init) := by
  unfold processItemList
  split
  · exact .pure
  · exact processPages_quietly reads task addr data _ _ _ _

theorem readItem_quietly (size : Nat) (task : Sel4Task) (addr : Nat) :
    Evolves (Quietly strict noPage) (readItem platform size task addr : KernelM ν _) :=
  (processItemList_quietly not_noPage size task addr none
    (fun _ _ _ _ => loadBytes_dataOnly _ _) _).bind fun _ =>
    Evolves.pure

theorem copyItems_quietly (size : Nat) (task : Sel4Task) (addr : Nat) (number : Option Nat)
    (data : ∀ seat offset count acc, Evolves (DataOnly False anyPage) (f seat offset count acc))
    (init : β) :
    Evolves (Quietly False anyPage) (processItemList platform size task addr number f init) :=
  processItemList_quietly False.elim size task addr number data init

theorem writeItem_quietly (size : Nat) (task : Sel4Task) (addr item : Nat) :
    Evolves (Quietly False anyPage) (writeItem platform size task addr item : KernelM ν _) :=
  (copyItems_quietly size task addr none (fun _ _ _ _ => copyBytes_dataOnly _ _ _) _).bind fun _ => .pure

theorem readItemList_quietly (size : Nat) (task : Sel4Task) (addr : Nat) (num : Option Nat) (buf : Nat) :
    Evolves (Quietly False anyPage) (readItemList platform size task addr num buf : KernelM ν _) :=
  (copyItems_quietly size task addr num (fun _ _ _ _ => copyBytes_dataOnly _ _ _) _).bind fun _ => .pure

theorem writeItemList_quietly (size : Nat) (task : Sel4Task) (addr : Nat) (num : Option Nat)
    (buf : Nat) :
    Evolves (Quietly False anyPage) (writeItemList platform size task addr num buf : KernelM ν _) :=
  (copyItems_quietly 1 task addr num (fun _ _ _ _ => copyBytes_dataOnly _ _ _) _).bind fun _ => .pure

theorem writeRounds_quietly (task : Sel4Task) (rounds : Nat) (loop : WriteLoop) :
    Evolves (Quietly strict noPage) (writeRounds platform task rounds loop : KernelM ν _) := by
  induction rounds generalizing loop with
  | zero => exact .pure
  | succ rounds ih =>
    unfold writeRounds
    split
    · exact .pure
    · refine .bind ?_ fun _ => ih _
      unfold writeRound
      split
      · exact .pure
      · refine (withPage_quietly _ (loadBytes_dataOnly _ _) not_noPage).bind fun bytes => ?_
        refine .bind (DataOnly.quietly ?_) fun _ => .pure
        exact .update fun _ => .of_frames rfl rfl rfl rfl rfl

theorem sysWrite_quietly (badge fd buf count : Nat) :
    Evolves (Quietly strict noPage) (sysWrite platform badge fd buf count : KernelM ν _) := by
  refine .bind (.locked ((taskOf_quietly badge).bind fun task => ?_)) fun result => ?_
  · split
    · exact .pure
    · exact (writeRounds_quietly _ _ _).bind fun _ => .pure
  · split
    · exact .pure
    · exact .stop

section Net

variable (link : NetLink ν) (errno : AxErrno) (layout : SocketAddrLayout)

theorem sendNetIpc_quietly (label : NetRequsetabel) (cap : Option CPtr) :
    Evolves (Quietly False anyPage) (sendNetIpc link label cap) := by
  refine DataOnly.quietly (.bind Evolves.read fun state => ?_)
  dsimp only
  split
  · exact .stop
  · exact .update fun _ => ⟨rfl, rfl, rfl, rfl, False.elim⟩

theorem msgReg_quietly (index : Nat) :
    Evolves (Quietly strict through) (msgReg index : KernelM ν UInt64) :=
  Evolves.bind Evolves.read fun _ => .pure

theorem msgReg_returns (state : KernelState ν) (index : Nat) :
    Delivers state (msgReg index) fun word after => word = state.msgRegs index ∧ after = state := by
  refine .read_bind ?_
  rintro state rfl
  exact .pure fun _ same => ⟨rfl, same⟩

theorem axresult_quietly (val : UInt64) :
    Evolves (Quietly strict through) (axresult errno val : KernelM ν _) := by
  unfold axresult
  split
  · exact .stop
  · exact .pure

theorem unitReply_quietly : Evolves (Quietly strict through) (Tcp.unitReply errno : KernelM ν _) :=
  (msgReg_quietly 0).bind fun word => (axresult_quietly errno word).bind fun _ => .pure

theorem withCapacity_quietly (capacity : Nat) :
    Evolves (Quietly strict through) (ByteVec.withCapacity platform capacity : KernelM ν ByteVec) := by
  unfold ByteVec.withCapacity
  split
  · exact .stop
  · exact .pure

theorem errnoOf_quietly {γ : Type} (expected : List AxError) (error : AxError) :
    Evolves (Quietly strict through) (errnoOf expected error : KernelM ν (Except Errno γ)) := by
  unfold errnoOf
  split
  · exact .pure
  · exact .stop

theorem sysSocket_quietly : Evolves (Quietly False anyPage) (sysSocket link) :=
  ((sendNetIpc_quietly link _ _).bind fun _ => msgReg_quietly 0).bind fun _ => .pure

theorem tcpAccept_quietly (socketId : UInt64) :
    Evolves (Quietly False anyPage) (Tcp.accept link errno socketId) := by
  refine (sendNetIpc_quietly link _ _).bind fun _ => .bind Evolves.read fun state => ?_
  split
  · exact .stop
  · exact .pure

theorem sysListen_quietly (socketFd : Nat) :
    Evolves (Quietly False anyPage) (sysListen link errno socketFd) := by
  refine .bind ((sendNetIpc_quietly link _ _).bind fun _ => unitReply_quietly errno) fun result => ?_
  split
  · exact .pure
  · exact errnoOf_quietly _ _

theorem sysShutdown_quietly (socketFd : Nat) :
    Evolves (Quietly False anyPage) (sysShutdown link errno socketFd) := by
  refine .bind ((sendNetIpc_quietly link _ _).bind fun _ => unitReply_quietly errno) fun result => ?_
  split
  · exact .pure
  · exact errnoOf_quietly _ _

theorem sysAccept_quietly (badge socketFd addr : Nat) :
    Evolves (Quietly False anyPage) (sysAccept platform link errno badge socketFd addr) := by
  refine .locked ((taskOf_quietly badge).bind fun task =>
    (tcpAccept_quietly link errno _).bind fun result => ?_)
  split
  · exact errnoOf_quietly _ _
  · exact (DataOnly.quietly (storeBytes_dataOnly _ _)).bind fun _ =>
      (writeItem_quietly _ _ _ _).bind fun _ => .pure

structure AllowsRequests (platform : Platform) (rel : KernelState ν → KernelState ν → Prop) : Prop where
  quiet : ∀ {α : Type} {program : KernelM ν α}, Evolves (Quietly False anyPage) program →
    Evolves rel program
  frame : ∀ size item num, Evolves rel (genCap platform size item num)

variable {rel : KernelState ν → KernelState ν → Prop} [IsPreorder (KernelState ν) rel]
  (allows : AllowsRequests platform rel)

include allows

theorem tcpBind_evolves (socketId : UInt64) (localAddr : SocketAddr) :
    Evolves rel (Tcp.bind platform link errno layout socketId localAddr) :=
  (allows.quiet (DataOnly.quietly (storeBytes_dataOnly _ _))).bind fun _ =>
    (allows.frame _ _ _).bind fun _ =>
    (allows.quiet (sendNetIpc_quietly link _ _)).bind fun _ => allows.quiet (unitReply_quietly errno)

theorem tcpConnect_evolves (socketId : UInt64) (remoteAddr : SocketAddr) :
    Evolves rel (Tcp.connect platform link errno layout socketId remoteAddr) :=
  (allows.quiet (DataOnly.quietly (storeBytes_dataOnly _ _))).bind fun _ =>
    (allows.frame _ _ _).bind fun _ =>
    (allows.quiet (sendNetIpc_quietly link _ _)).bind fun _ => allows.quiet (unitReply_quietly errno)

theorem tcpSend_evolves (socketId : UInt64) (buf len : Nat) :
    Evolves rel (Tcp.send platform link errno socketId buf len) := by
  unfold Tcp.send
  split
  · exact .stop
  · exact (allows.frame _ _ _).bind fun _ =>
      (allows.quiet (DataOnly.quietly (copyBytes_dataOnly _ _ _))).bind fun _ =>
      (allows.quiet (sendNetIpc_quietly link _ _)).bind fun _ =>
      allows.quiet ((msgReg_quietly 0).bind fun word => axresult_quietly errno word)

theorem tcpRecv_evolves (socketId : UInt64) (buf len : Nat) :
    Evolves rel (Tcp.recv platform link errno socketId buf len) := by
  unfold Tcp.recv
  split
  · exact .stop
  · exact (allows.frame _ _ _).bind fun _ => (allows.quiet (sendNetIpc_quietly link _ _)).bind fun _ =>
      allows.quiet ((msgReg_quietly 0).bind fun word => (DataOnly.quietly (copyBytes_dataOnly _ _ _)).bind fun _ =>
        axresult_quietly errno word)

omit [IsPreorder (KernelState ν) rel] in
theorem readAddress_evolves (task : Sel4Task) (addr : Nat) :
    Evolves rel (readItem platform libcSocketAddrSize task addr : KernelM ν _) :=
  allows.quiet ((copyItems_quietly _ task addr none (fun _ _ _ _ => loadBytes_dataOnly _ _) _).bind
    fun _ => .pure)

theorem withAddress_evolves (badge addr : Nat) (expected : List AxError)
    {request : SocketAddr → KernelM ν (AxResult Unit)}
    (requests : ∀ target, Evolves rel (request target)) :
    Evolves rel (withAddress platform badge addr expected request) := by
  refine .locked ((allows.quiet (taskOf_quietly badge)).bind fun task =>
    (readAddress_evolves allows task addr).bind fun result => ?_)
  split
  · exact .pure
  · refine (requests _).bind fun result => ?_
    split
    · exact .pure
    · exact allows.quiet (errnoOf_quietly _ _)

theorem sysBind_evolves (badge socketFd addr : Nat) :
    Evolves rel (sysBind platform link errno layout badge socketFd addr) :=
  withAddress_evolves allows badge addr _ fun _ => tcpBind_evolves link errno layout allows _ _

theorem sysConnect_evolves (badge socketFd addr : Nat) :
    Evolves rel (sysConnect platform link errno layout badge socketFd addr) :=
  withAddress_evolves allows badge addr _ fun _ => tcpConnect_evolves link errno layout allows _ _

theorem sysSendto_evolves (badge socketFd buf len addr : Nat) :
    Evolves rel (sysSendto platform link errno badge socketFd buf len addr) := by
  refine .locked ((allows.quiet (taskOf_quietly badge)).bind fun task =>
    (readAddress_evolves allows task addr).bind fun result => ?_)
  split
  · exact .pure
  · refine (allows.quiet (withCapacity_quietly len)).bind fun payload =>
      (allows.quiet (readItemList_quietly _ _ _ _ _)).bind fun _ =>
      (tcpSend_evolves link errno allows _ _ _).bind fun result => ?_
    split
    · exact .pure
    · exact allows.quiet (errnoOf_quietly _ _)

theorem sysRecvfrom_evolves (badge socketFd buf len : Nat) :
    Evolves rel (sysRecvfrom platform link errno badge socketFd buf len) := by
  refine .locked ((allows.quiet (taskOf_quietly badge)).bind fun task =>
    (allows.quiet (withCapacity_quietly len)).bind fun recvBuf =>
    (tcpRecv_evolves link errno allows _ _ _).bind fun result => ?_)
  split
  · exact allows.quiet (writeItemList_quietly _ _ _ _ _)
  · exact allows.quiet (errnoOf_quietly _ _)

end Net

theorem genCap_within (size item : Nat) (num : Option Nat) :
    Evolves (Within False space) (genCap platform size item num : KernelM ν CPtr) := by
  refine (allocate_within .granule).bind fun newCap => .bind (fun state =>
    (unwrapped_frameMap_spec state newCap kernelVSpace platform.pageSeat .all).partly
        fun _ _ maps rooted => maps.kept (Or.inr rooted.kernel)) fun _ => ?_
  dsimp only
  split
  · exact .stop
  · exact (DataOnly.within (copyBytes_dataOnly _ _ _)).bind fun _ => .pure

theorem allowsRequests_within : AllowsRequests platform (Within False space : KernelState ν →
    KernelState ν → Prop) :=
  ⟨Quietly.within, genCap_within⟩

end RootTaskDemo.Kernel
