import RdCore.Seccomp.Bpf
import RdCore.Seccomp.Rewriter
import RdCore.Seccomp.Install
import RdCore.Seccomp.Stack
import RdCore.Syscall.Tracee
import RdCore.Syscall.State
import RdCore.Syscall.Prepare
import RdCore.Syscall.Results
import RdCore.Syscall.Sizes
import RdCore.Syscall.Frames
import RdCore.Syscall.RoundTrip
import RdCore.Syscall.Prctl
import RdCore.Syscall.Recorder
import RdCore.Gdb.Timeline
import RdCore.Gdb.Server
import RdCore.Gdb.Restart
import RdCore.Gdb.Memory
import RdCore.Gdb.MemRequest
import RdCore.Gdb.Stop
