import SharedPages.Errno.Basic

/-!
# The catalogue of error numbers

Names, one-line messages and longer explanations of the error numbers of Linux on
x86-64. Some numbers carry two names (`ENOTSUP` and `EOPNOTSUPP` are both 95);
a search takes the first row, so the preferred name stands first.
-/

namespace SharedPages

/-- A row of the catalogue. The explanation may be empty. -/
structure ErrnoDescription where
  errno : Errno
  name : String
  message : String
  help : String
  deriving DecidableEq, Repr

namespace Errno

/-- The rows, in order of preference. -/
def catalogue : List ErrnoDescription := [
  ⟨⟨1⟩, "EPERM", "Operation not permitted.",
    "Only the owner of the file or resource, or a process with special privileges, can perform the operation."⟩,
  ⟨⟨2⟩, "ENOENT", "No such file or directory.",
    "A file or shared memory object was referenced in a context where it is expected to already exist, but it does not."⟩,
  ⟨⟨3⟩, "ESRCH", "No such process.",
    "No process matches the specified process ID."⟩,
  ⟨⟨4⟩, "EINTR", "Interrupted system call.",
    "An asynchronous signal occurred and prevented completion of the call. The call can usually be retried."⟩,
  ⟨⟨5⟩, "EIO", "Input/output error.",
    "Usually used for physical read or write errors."⟩,
  ⟨⟨6⟩, "ENXIO", "No such device or address.",
    "The system tried to use the device represented by a file, and could not find it."⟩,
  ⟨⟨7⟩, "E2BIG", "Argument list too long.",
    "The arguments passed to a new program occupy too much memory."⟩,
  ⟨⟨8⟩, "ENOEXEC", "Exec format error.",
    "Invalid executable file format."⟩,
  ⟨⟨9⟩, "EBADF", "Bad file descriptor.",
    "The descriptor is not open, or was opened without the access mode the operation needs (for example writing to a descriptor opened read-only)."⟩,
  ⟨⟨10⟩, "ECHILD", "No child processes.",
    "There are no child processes to manipulate."⟩,
  ⟨⟨35⟩, "EDEADLK", "Resource deadlock avoided.",
    "Allocating a system resource would have resulted in a deadlock."⟩,
  ⟨⟨12⟩, "ENOMEM", "Cannot allocate memory.",
    "The system cannot allocate more virtual memory because its capacity is full. For mlock and mlockall this also means the RLIMIT_MEMLOCK soft limit would be exceeded; the limit is not enforced for processes holding CAP_IPC_LOCK."⟩,
  ⟨⟨13⟩, "EACCES", "Permission denied.",
    "The permissions of the object do not allow the attempted operation."⟩,
  ⟨⟨14⟩, "EFAULT", "Bad address.",
    "An invalid pointer or an empty name was passed to the call."⟩,
  ⟨⟨15⟩, "ENOTBLK", "Block device required.",
    "A file that is not a block special file was given where one is required."⟩,
  ⟨⟨16⟩, "EBUSY", "Device or resource busy.",
    "A system resource that cannot be shared is already in use."⟩,
  ⟨⟨17⟩, "EEXIST", "File exists.",
    "An existing file or shared memory object was specified in a context where only a new one makes sense."⟩,
  ⟨⟨18⟩, "EXDEV", "Invalid cross-device link.",
    "An attempt to make an improper link across file systems was detected."⟩,
  ⟨⟨19⟩, "ENODEV", "No such device.",
    "The wrong type of device was given to a function that expects a particular sort of device. mmap reports it when the underlying file system does not support memory mapping."⟩,
  ⟨⟨20⟩, "ENOTDIR", "Not a directory.",
    "A file that is not a directory was specified where a directory is required."⟩,
  ⟨⟨21⟩, "EISDIR", "Is a directory.",
    "You cannot open a directory for writing."⟩,
  ⟨⟨22⟩, "EINVAL", "Invalid argument.",
    "A wrong argument was passed to a library function: a zero length, unsupported flag bits, a name of invalid length, or a memory range that does not match a live mapping."⟩,
  ⟨⟨23⟩, "ENFILE", "Too many open files in system.",
    "There are too many distinct file openings in the entire system."⟩,
  ⟨⟨24⟩, "EMFILE", "Too many open files.",
    "The current process has too many files open and cannot open any more. The limit is controlled by RLIMIT_NOFILE."⟩,
  ⟨⟨25⟩, "ENOTTY", "Inappropriate ioctl for device.",
    "Inappropriate I/O control operation, such as trying to set terminal modes on an ordinary file."⟩,
  ⟨⟨26⟩, "ETXTBSY", "Text file busy.",
    "An attempt to execute a file that is open for writing, or to write to a file that is being executed."⟩,
  ⟨⟨27⟩, "EFBIG", "File too large.",
    "The size of a file would be larger than allowed by the system."⟩,
  ⟨⟨28⟩, "ENOSPC", "No space left on device.",
    "A write or truncate failed because the device is full."⟩,
  ⟨⟨29⟩, "ESPIPE", "Illegal seek.",
    "Invalid seek operation, such as on a pipe."⟩,
  ⟨⟨30⟩, "EROFS", "Read-only file system.",
    "An attempt was made to modify something on a read-only file system."⟩,
  ⟨⟨31⟩, "EMLINK", "Too many links.",
    "The link count of a single file would become too large."⟩,
  ⟨⟨32⟩, "EPIPE", "Broken pipe.",
    "There is no process reading from the other end of a pipe."⟩,
  ⟨⟨33⟩, "EDOM", "Numerical argument out of domain.",
    "An argument does not fall into the domain over which the function is defined."⟩,
  ⟨⟨34⟩, "ERANGE", "Numerical result out of range.",
    "The result value is not representable because of overflow or underflow."⟩,
  ⟨⟨11⟩, "EAGAIN", "Resource temporarily unavailable.",
    "The call might work if you try again later. For mmap and mlock it means too much memory has been locked."⟩,
  ⟨⟨11⟩, "EWOULDBLOCK", "Operation would block.",
    "Another name for EAGAIN on most systems."⟩,
  ⟨⟨115⟩, "EINPROGRESS", "Operation now in progress.",
    "An operation that cannot complete immediately was initiated on a non-blocking object."⟩,
  ⟨⟨114⟩, "EALREADY", "Operation already in progress.",
    "An operation is already in progress on a non-blocking object."⟩,
  ⟨⟨88⟩, "ENOTSOCK", "Socket operation on non-socket.",
    "A file that is not a socket was specified when a socket is required."⟩,
  ⟨⟨90⟩, "EMSGSIZE", "Message too long.",
    "The size of a message sent on a socket was larger than the supported maximum size."⟩,
  ⟨⟨91⟩, "EPROTOTYPE", "Protocol wrong type for socket.",
    "The socket type does not support the requested communications protocol."⟩,
  ⟨⟨92⟩, "ENOPROTOOPT", "Protocol not available.",
    "A socket option was specified that does not make sense for the protocol used by the socket."⟩,
  ⟨⟨93⟩, "EPROTONOSUPPORT", "Protocol not supported.",
    "The socket domain does not support the requested communications protocol."⟩,
  ⟨⟨94⟩, "ESOCKTNOSUPPORT", "Socket type not supported.",
    "The socket type is not supported."⟩,
  ⟨⟨96⟩, "EPFNOSUPPORT", "Protocol family not supported.",
    "The socket communications protocol family requested is not supported."⟩,
  ⟨⟨97⟩, "EAFNOSUPPORT", "Address family not supported by protocol.",
    "The address family specified for a socket is inconsistent with the protocol used on the socket."⟩,
  ⟨⟨98⟩, "EADDRINUSE", "Address already in use.",
    "The requested socket address is already in use."⟩,
  ⟨⟨99⟩, "EADDRNOTAVAIL", "Cannot assign requested address.",
    "The requested socket address is not available on this host."⟩,
  ⟨⟨100⟩, "ENETDOWN", "Network is down.",
    "A socket operation failed because the network was down."⟩,
  ⟨⟨101⟩, "ENETUNREACH", "Network is unreachable.",
    "A socket operation failed because the subnet containing the remote host was unreachable."⟩,
  ⟨⟨102⟩, "ENETRESET", "Network dropped connection on reset.",
    "A network connection was reset because the remote host crashed."⟩,
  ⟨⟨103⟩, "ECONNABORTED", "Software caused connection abort.",
    "A network connection was aborted locally."⟩,
  ⟨⟨104⟩, "ECONNRESET", "Connection reset by peer.",
    "A network connection was closed for reasons outside the control of the local host, such as the remote machine rebooting."⟩,
  ⟨⟨105⟩, "ENOBUFS", "No buffer space available.",
    "The kernel's buffers for I/O operations are all in use."⟩,
  ⟨⟨106⟩, "EISCONN", "Transport endpoint is already connected.",
    "An attempt was made to connect a socket that is already connected."⟩,
  ⟨⟨107⟩, "ENOTCONN", "Transport endpoint is not connected.",
    "Data was transmitted over a socket that is not connected to anything."⟩,
  ⟨⟨89⟩, "EDESTADDRREQ", "Destination address required.",
    "No default destination address was set for a connectionless socket."⟩,
  ⟨⟨108⟩, "ESHUTDOWN", "Cannot send after transport endpoint shutdown.",
    "The socket has already been shut down."⟩,
  ⟨⟨109⟩, "ETOOMANYREFS", "Too many references: cannot splice.",
    ""⟩,
  ⟨⟨110⟩, "ETIMEDOUT", "Connection timed out.",
    "A socket operation with a specified timeout received no response during the timeout period."⟩,
  ⟨⟨111⟩, "ECONNREFUSED", "Connection refused.",
    "A remote host refused the network connection, typically because it is not running the requested service."⟩,
  ⟨⟨40⟩, "ELOOP", "Too many levels of symbolic links.",
    "Too many symbolic links were encountered while resolving a path, or the final component is a symbolic link and O_NOFOLLOW was given."⟩,
  ⟨⟨36⟩, "ENAMETOOLONG", "File name too long.",
    "A path or shared memory object name is longer than the system permits."⟩,
  ⟨⟨112⟩, "EHOSTDOWN", "Host is down.",
    "The remote host for a requested network connection is down."⟩,
  ⟨⟨113⟩, "EHOSTUNREACH", "No route to host.",
    "The remote host for a requested network connection is not reachable."⟩,
  ⟨⟨39⟩, "ENOTEMPTY", "Directory not empty.",
    "An empty directory was expected."⟩,
  ⟨⟨87⟩, "EUSERS", "Too many users.",
    "The file quota system is confused because there are too many users."⟩,
  ⟨⟨122⟩, "EDQUOT", "Disk quota exceeded.",
    "The user's disk quota was exceeded."⟩,
  ⟨⟨116⟩, "ESTALE", "Stale file handle.",
    "An internal confusion in the file system, usually caused by rearrangements on an NFS server."⟩,
  ⟨⟨66⟩, "EREMOTE", "Object is remote.",
    "An attempt was made to mount a remote file system with a name that already refers to a remote file."⟩,
  ⟨⟨37⟩, "ENOLCK", "No locks available.",
    "The file locking facilities ran out of locks."⟩,
  ⟨⟨38⟩, "ENOSYS", "Function not implemented.",
    "The function is not implemented by the C library or the operating system, and will always fail with ENOSYS on this system."⟩,
  ⟨⟨95⟩, "ENOTSUP", "Not supported.",
    "The parameter values are valid, but the functionality they request is not available for this object."⟩,
  ⟨⟨95⟩, "EOPNOTSUPP", "Operation not supported.",
    "The operation is not supported for this kind of object."⟩,
  ⟨⟨74⟩, "EBADMSG", "Bad message.",
    ""⟩,
  ⟨⟨43⟩, "EIDRM", "Identifier removed.",
    ""⟩,
  ⟨⟨72⟩, "EMULTIHOP", "Multihop attempted.",
    ""⟩,
  ⟨⟨67⟩, "ENOLINK", "Link has been severed.",
    ""⟩,
  ⟨⟨42⟩, "ENOMSG", "No message of desired type.",
    ""⟩,
  ⟨⟨75⟩, "EOVERFLOW", "Value too large for defined data type.",
    ""⟩,
  ⟨⟨71⟩, "EPROTO", "Protocol error.",
    ""⟩,
  ⟨⟨84⟩, "EILSEQ", "Invalid or incomplete multibyte or wide character.",
    "An invalid or incomplete byte sequence was found while decoding a multibyte character."⟩,
  ⟨⟨125⟩, "ECANCELED", "Operation canceled.",
    "An asynchronous operation was canceled before it completed."⟩,
  ⟨⟨130⟩, "EOWNERDEAD", "Owner died.",
    ""⟩,
  ⟨⟨131⟩, "ENOTRECOVERABLE", "State not recoverable.",
    ""⟩,
  ⟨⟨61⟩, "ENODATA", "No data available.",
    ""⟩,
  ⟨⟨63⟩, "ENOSR", "Out of streams resources.",
    ""⟩,
  ⟨⟨60⟩, "ENOSTR", "Device not a stream.",
    ""⟩,
  ⟨⟨62⟩, "ETIME", "Timer expired.",
    ""⟩]

/-- The first row for the number, if there is one. -/
def describe (e : Errno) : Option ErrnoDescription :=
  catalogue.find? (·.errno = e)

end Errno

end SharedPages
